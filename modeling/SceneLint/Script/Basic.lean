import SceneLint.Script.Header
import SceneLint.Script.Kind
import SceneLint.Text.Lines

/-!
# Scripts

A `Script` is a script file with what its name and its header lines say. `Script.build` makes one
from a path and the file's text. It fails when two lines declare the same thing or a header line
cannot be read; the first such line is the one at fault.
-/

namespace SceneLint

/-- A `Script` is a script file and what it declares. -/
structure Script where
  fullName : String
  name : String
  path : FilePath
  resource : String
  contents : String
  kind : ScriptKind
  className : Option String
  base : Option String
deriving DecidableEq

/-- A `ScriptFault` is why no script can be made of a file. Lines count from one. -/
inductive ScriptFault where
  | shortName (kind : ScriptKind)
  | header (line : Nat) (fault : HeaderFault) (text : String)
  | repeatedClassName (line : Nat)
  | repeatedBase (line : Nat)
deriving DecidableEq

namespace Script

/-- `lines s` is the lines of a script. -/
def lines (s : Script) : List (List Char) :=
  Text.lines s.contents.toList

/-- `scanHeaders number seen lines` collects the declarations of lines, of which the first has the
given number, on top of those already seen. -/
def scanHeaders : Nat → Header → List (List Char) → Except ScriptFault Header
  | _, seen, [] => .ok seen
  | number, seen, line :: lines =>
      match Header.ofLine line with
      | .error fault => .error (.header number fault (String.ofList (Text.trim line)))
      | .ok here =>
          if here.className.isSome && seen.className.isSome then
            .error (.repeatedClassName number)
          else if here.base.isSome && seen.base.isSome then .error (.repeatedBase number)
          else scanHeaders (number + 1) (here.orElse seen) lines

/-- `headers contents` is what a script's text declares. -/
def headers (contents : String) : Except ScriptFault Header :=
  scanHeaders 1 .empty (Text.lines contents.toList)

/-- `nameOf kind path` is the name of the script at a path. -/
def nameOf (kind : ScriptKind) (path : FilePath) : Except ScriptFault String :=
  match kind.scriptName? path with
  | some name => .ok name
  | none => .error (.shortName kind)

/-- `build path contents resource` is the script in the file at `path`, known to scenes as
`resource`. -/
def build (path : FilePath) (contents resource : String) : Except ScriptFault Script := do
  let kind := ScriptKind.ofFileName path.name
  let name ← nameOf kind path
  let header ← headers contents
  return ⟨path.name, name, path, resource, contents, kind, header.className, header.base⟩

end Script

end SceneLint
