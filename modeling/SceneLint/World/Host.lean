import SceneLint.Console.Terminal
import SceneLint.Data.Basic

/-!
# The host of a run

A `Host` is what a run gets from the interpreter and the machine beside files and environment: how
deep its calls may nest, how failures of the interpreter and of its readers are worded, whether the
run is a test, who has an account, how sets are ordered, and the terminal. A run depends on these as
it does on files, so they are parameters, and nothing is assumed of them.
-/

namespace SceneLint

/-- A `Depths` is how deep calls may nest before the interpreter gives up: directories that are
walked down, and lists and objects of JSON inside each other, as they are written and read. -/
structure Depths where
  walk : Nat
  write : Nat
  read : Nat

/-- A `Host` is what a run gets from the interpreter and the machine. `tooDeep` is how it words that
calls nest too deep, `malformed path text` what is wrong with the YAML or TOML text in a file, and
`trace kind message` how a failure came about. `isTest` says that the program runs under its tests.
`ownHome` is the home directory of the account that the run belongs to, `homes` those of all
accounts. `order members` is the members of a set in the order in which the interpreter goes through
them. -/
structure Host where
  depths : Depths
  tooDeep : String
  malformed : String → String → String
  trace : String → String → String
  isTest : Bool
  ownHome : Option String
  homes : List (String × String)
  order : List Data → List Data
  terminal : Console.Terminal

namespace Host

/-- `usual` is a host with the limits of a new interpreter and a plain terminal, on a machine
without accounts. -/
def usual : Host where
  depths := ⟨900, 900, 900⟩
  tooDeep := "maximum recursion depth exceeded"
  malformed _ _ := ""
  trace kind message := kind ++ ": " ++ message
  isTest := false
  ownHome := none
  homes := []
  order members := members
  terminal := .plain

end Host

end SceneLint
