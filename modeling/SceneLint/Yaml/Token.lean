import SceneLint.Yaml.Cursor

/-!
# YAML tokens

A document is first cut into tokens. Indentation becomes explicit: the lexer opens and closes
block collections by tokens of their own, and puts a `key` token in front of a simple key once its
colon has been seen.
-/

namespace SceneLint.Yaml

/-- A `Directive` is an instruction in front of a document. -/
inductive Directive where
  | version (major minor : Nat)
  | tag (handle uri : String)
  | other

/-- A `Token` is a smallest meaningful part of a YAML text. -/
inductive Token where
  | directive (d : Directive)
  | documentStart
  | documentEnd
  | blockSequence
  | blockMapping
  | blockEnd
  | flowSequence
  | flowSequenceEnd
  | flowMapping
  | flowMappingEnd
  | flowEntry
  | blockEntry
  | key
  | value
  | alias (name : String)
  | anchor (name : String)
  | tag (handle : Option String) (suffix : String)
  | scalar (text : String) (plain : Bool)
  | streamEnd

end SceneLint.Yaml
