import Std.Time
import SceneLint.Command.Run
import SceneLint.Log.Line

/-!
# The command line

`main` takes a picture of the machine as far as a run can see it, runs the words of the command
line on that picture, and prints what came of it. A link appears in the picture as a link to the
place where it finally leads. Files that no check reads are pictured without their content.
-/

namespace SceneLint.Machine

/-- `contentAt path` is the octets of a file, or the fact that it may not be read. -/
def contentAt (path : String) : IO (Option (List UInt8)) := do
  match ← (IO.FS.readBinFile path).toBaseIO with
  | .ok octets => return some octets.toList
  | .error _ => return none

/-- `kindAt path` is the kind of what lies at a path, links not followed. -/
def kindAt (path : String) : IO (Option IO.FS.FileType) := do
  let start ← IO.currentDir
  match ← (start / path).symlinkMetadata.toBaseIO with
  | .ok found => return some found.type
  | .error _ => return none

/-- `namesAt path` is the names in a directory, or the fact that it may not be listed. -/
def namesAt (path : String) : IO (Option (List String)) := do
  let start ← IO.currentDir
  match ← (start / path).readDir.toBaseIO with
  | .ok entries => return some (entries.toList.map (·.fileName))
  | .error _ => return none

/-- `targetAt path` is where a link finally leads. -/
def targetAt (path : String) : IO FilePath := do
  match ← (IO.FS.realPath path).toBaseIO with
  | .ok real => return .ofString real.toString
  | .error _ => return .ofString path

/-- `addFile w reads path` pictures a file, with its content where `reads` asks for it. -/
def addFile (w : World) (reads : FilePath → Bool) (path : FilePath) : IO World := do
  let empty := w.put path.parts (.file [])
  if reads path then
    match ← contentAt path.text with
    | some octets => return w.put path.parts (.file octets)
    | none =>
        return { empty with denied := { w.denied with read := path.text :: w.denied.read } }
  else return empty

/-- `addWay w links made names` pictures what lies on the way from `made` along names; at most
`links` links are followed. -/
def addWay (w : World) : Nat → FilePath → List String → IO World
  | _, _, [] => return w
  | 0, _, _ => return w
  | links + 1, made, name :: names => do
      let here := made.child name
      match ← kindAt here.text with
      | none => return w
      | some .dir =>
          let known := (w.tree.lookup here.parts).isSome
          addWay (if known then w else w.put here.parts .empty) (links + 1) here names
      | some .symlink =>
          let target ← targetAt here.text
          let w := w.put here.parts (.link target.text)
          addWay w links ⟨.root, []⟩ (target.parts ++ names)
      | some _ => addFile w (fun _ => true) here
termination_by links _ names => (links, names.length)

/-- `linkLimit` bounds the links that are followed on the way to one path. -/
def linkLimit : Nat := 40

/-- `addPath w path` pictures a path and what lies at it, but not what lies below. -/
def addPath (w : World) (path : FilePath) : IO World :=
  addWay w linkLimit ⟨.root, []⟩ (w.workingPath.join path).parts

/-- `addBelow w reads depth path` pictures what lies in a directory, down to a depth. -/
def addBelow (w : World) (reads : FilePath → Bool) : Nat → FilePath → IO World
  | 0, _ => return w
  | depth + 1, path => do
      match ← namesAt path.text with
      | none => return { w with denied := { w.denied with list := path.text :: w.denied.list } }
      | some names =>
          names.foldlM (fun w name => do
            let here := path.child name
            match ← kindAt here.text with
            | some .dir => addBelow (w.put here.parts .empty) reads depth here
            | some .symlink => addPath w here
            | some .file => addFile w reads here
            | _ => return w) w

/-- `depthLimit` bounds how deep directories are looked into. -/
def depthLimit : Nat := 256

/-- `environment` is the variables of the process. -/
def environment : IO (List (String × String)) := do
  let octets := (← contentAt "/proc/self/environ").getD []
  let entries := octets.splitOn 0
  return entries.filterMap fun entry =>
    match Text.Utf8.decode entry with
    | .ok cs =>
        match Text.cut? ['='] cs with
        | some (name, value) => some (String.ofList name, String.ofList value)
        | none => none
    | .error _ => none

/-- `wordPaths w words` is the paths that words of a command line may name. -/
def wordPaths (w : World) (words : List String) : List FilePath :=
  let values := words.filterMap fun word =>
    (Text.cut? ['='] word.toList).map fun cut => String.ofList cut.2
  (words ++ values).filterMap fun word => (w.expandHome (.ofString word)).toOption

/-- `fixedPaths w` is the paths that every run looks at. -/
def fixedPaths (w : World) : List FilePath :=
  let home := match w.homePath with
    | .ok home => Settings.standardNames.1.map (Settings.below home)
    | .error _ => []
  w.workingPath :: Settings.environmentFile :: home ++
    Settings.standardNames.2.map (Settings.below w.workingPath)

/-- `possibleSettings w paths` is the settings a run may have, whichever path is the configuration
file. -/
def possibleSettings (w : World) (paths : List FilePath) : List Settings :=
  (none :: paths.map some).filterMap fun file? => (Settings.forCommand w file? []).toOption

/-- `isSource settings path` says that a check with one of the settings reads a file. -/
def isSource (settings : List Settings) (path : FilePath) : Bool :=
  settings.any fun s =>
    path.suffix == "." ++ s.scriptExtension || path.suffix == "." ++ s.sceneExtension

/-- `picture words` is the world as far as a run on some words can see it. -/
def picture (words : List String) : IO World := do
  let working := FilePath.ofString (← IO.currentDir).toString
  let w : World := ⟨.empty, ← environment, working.parts, ⟨[], [], []⟩, .usual⟩
  let named := wordPaths w words
  let w ← (fixedPaths w ++ named).foldlM addPath w
  let settings := possibleSettings w named
  let w ← settings.foldlM (fun w s => addPath w s.projectRoot) w
  let w ← (settings.filterMap Settings.logFile).foldlM addPath w
  if words.contains "check" then
    let roots := settings.map Settings.projectRoot ++
      named.filterMap fun path => (w.resolve path).toOption
    (roots.filter (w.hasDirectory · matches .ok true)).foldlM
      (fun w root => addBelow w (isSource settings) depthLimit root) w
  else return w

/-- `now` is the time of the clock. -/
def now : IO String := do
  let time ← Std.Time.PlainDateTime.now
  return time.format "uuuu-MM-dd'T'HH:mm:ss"

/-- `writeLog state text` appends lines to the log file, if there is one. -/
def writeLog (state : LogState) (text : String) : IO Unit := do
  match state.file with
  | none => return ()
  | some path =>
      IO.FS.createDirAll path.parent.text
      let file ← IO.FS.Handle.mk path.text .append
      file.putStr text

/-- `finish state? outcome` prints and logs what came of a command, and is its exit code. -/
def finish (state? : Option LogState) (outcome : Outcome) : IO UInt32 := do
  (← IO.getStdout).putStr outcome.stdout
  (← IO.getStderr).putStr outcome.stderr
  match state? with
  | none => pure ()
  | some state =>
      let lines := Log.text state (← now) "godotcheck" outcome.events
      (← IO.getStderr).putStr lines
      writeLog state lines
  match outcome.crash with
  | some f => (← IO.getStderr).putStr (f.kindName ++ ": " ++ f.message ++ "\n")
  | none => pure ()
  return UInt32.ofNat outcome.exitCode.toNat

end SceneLint.Machine

/-- `main words` runs the program on the words of a command line. -/
def main (words : List String) : IO UInt32 := do
  let w ← SceneLint.Machine.picture words
  let outcome := (SceneLint.Command.run w words).1
  SceneLint.Machine.finish (SceneLint.Command.logState? w words) outcome
