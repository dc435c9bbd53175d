import SceneLint.Settings.ConfigFile

/-!
# Paths given by a user

A path on the command line has to lead to a file or a directory that exists. `PathInput.validate`
expands and resolves it and says what is wrong with it.
-/

namespace SceneLint

/-- A `PathInput` is a path as a user gives it: nothing, a text, or a path already read. -/
inductive PathInput where
  | missing
  | text (s : String)
  | path (p : FilePath)

/-- A `PathDemand` is what a path has to lead to. -/
inductive PathDemand where
  | file (suffixes : List String)
  | directory
  | config

namespace PathInput

/-- `refuse message` is a failure that concerns no field. -/
def refuse {α : Type} (message : String) : Except Failure α :=
  .error (.input message none)

/-- `read input` is the path that is given, which must not be blank. -/
def read : PathInput → Except Failure FilePath
  | .missing => .error (.input "path is required" (some "path"))
  | .text s =>
      if Text.trimmed s = "" then .error (.input "path cannot be empty" (some "path"))
      else .ok (.ofString s)
  | .path p => .ok p

/-- `expanded w p` is a path expanded and resolved. -/
def expanded (w : World) (p : FilePath) : Except Failure FilePath :=
  match w.expand p with
  | .ok p => .ok p
  | .error fault => .error (.path fault)

/-- `checkFile w suffixes p` takes the path of a file with one of the suffixes, or with any when
none is asked for. -/
def checkFile (w : World) (suffixes : List String) (p : FilePath) : Except Failure FilePath :=
  match w.has p, w.hasFile p with
  | .error e, _ => .error (.system e)
  | .ok false, _ => refuse ("File does not exist: " ++ p.text)
  | .ok true, .error e => .error (.system e)
  | .ok true, .ok false => refuse ("Path is not a file: " ++ p.text)
  | .ok true, .ok true =>
      if suffixes.isEmpty || suffixes.contains (Text.lower p.suffix) then .ok p
      else
        refuse ("Invalid file extension: " ++ p.suffix ++ ". Expected one of: " ++
          ", ".intercalate suffixes)

/-- `checkDirectory w p` takes the path of a directory. -/
def checkDirectory (w : World) (p : FilePath) : Except Failure FilePath :=
  match w.has p, w.hasDirectory p with
  | .error e, _ => .error (.system e)
  | .ok false, _ => refuse ("Directory does not exist: " ++ p.text)
  | .ok true, .error e => .error (.system e)
  | .ok true, .ok false => refuse ("Path is not a directory: " ++ p.text)
  | .ok true, .ok true => .ok p

/-- `validate w demand input` is the path that a user means. -/
def validate (w : World) (demand : PathDemand) (input : PathInput) : Except Failure FilePath := do
  let p ← read input
  let p ← expanded w p
  match demand with
  | .file suffixes => checkFile w suffixes p
  | .directory => checkDirectory w p
  | .config => checkFile w ConfigFile.suffixes p

end PathInput

end SceneLint
