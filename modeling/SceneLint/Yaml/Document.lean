import SceneLint.Yaml.Lexer
import SceneLint.Yaml.Node

/-!
# YAML documents

`parse` reads a text that holds at most one document.
-/

namespace SceneLint.Yaml

/-- `parse order cs` is the value of the only document of a text, and nothing for an empty text;
`order` puts the members of a set in their order. -/
def parse (order : List Data → List Data) (cs : List Char) : Except Fault Data := do
  let tokens ← tokens cs
  Node.load order tokens

end SceneLint.Yaml
