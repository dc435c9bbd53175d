import SceneLint.Path.FilePath

/-!
# Kinds of scripts

The first two characters of a file's name say what part its script plays: `v_` marks a value, `r_`
a reference, and every other script is a behaviour. The name of a value or reference is its stem
without the mark.
-/

namespace SceneLint

/-- A `ScriptKind` is the part a script plays. -/
inductive ScriptKind where
  | behaviour
  | value
  | reference
deriving DecidableEq

namespace ScriptKind

/-- `name kind` is the word for a kind. -/
def name : ScriptKind → String
  | .behaviour => "Behaviour"
  | .value => "Value"
  | .reference => "Reference"

/-- `lowerName kind` is the word for a kind inside a sentence. -/
def lowerName : ScriptKind → String
  | .behaviour => "behaviour"
  | .value => "value"
  | .reference => "reference"

/-- `ofName? word` is the kind a word names. -/
def ofName? (word : String) : Option ScriptKind :=
  [behaviour, value, reference].find? (·.name == word)

/-- `ofFileName name` is the kind of the script in a file of this name. -/
def ofFileName (name : String) : ScriptKind :=
  match name.toList with
  | 'v' :: '_' :: _ => .value
  | 'r' :: '_' :: _ => .reference
  | _ => .behaviour

/-- `scriptName? kind path` is the name of the script at a path, or `none` when its stem is too
short to hold the mark of its kind. -/
def scriptName? (kind : ScriptKind) (path : FilePath) : Option String :=
  if kind = .behaviour then some path.stem
  else
    match path.stem.toList with
    | _ :: _ :: rest => some (String.ofList rest)
    | _ => none

end ScriptKind

end SceneLint
