import SceneLint.Console.Terminal

/-!
# Printing

`Printed` is the text that reached a terminal, and the fault that stopped it, if one did. `printAll`
prints texts one after the other, a line feed behind each, up to the first that cannot be printed.
-/

namespace SceneLint.Console

/-- `Printed` is what reached a terminal. -/
structure Printed where
  text : String
  fault : Option PrintFault
deriving DecidableEq

/-- `printAll t markups` prints texts one after the other. -/
def printAll (t : Terminal) : List String → Printed
  | [] => ⟨"", none⟩
  | markup :: markups =>
      match t.print 0 markup with
      | .error fault => ⟨"", some fault⟩
      | .ok text =>
          let others := printAll t markups
          ⟨text ++ "\n" ++ others.text, others.fault⟩

end SceneLint.Console
