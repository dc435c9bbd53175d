import SceneLint.Event
import SceneLint.Settings.ConfigFile
import SceneLint.Settings.Source

/-!
# Loading settings

`fromFiles` loads settings from a list of configuration files, of which later ones count before
earlier ones, and from overrides, which count before all files. A file that does not exist has no
influence. `current` is the settings of a run that is told nothing more: it takes the standard
files, and the environment alone where there are none. `forCommand` is the settings of a command,
which may name a file of its own.
-/

namespace SceneLint.Settings

/-- `namedEntries entries` is the entries of a mapping, of which every key has to be a text. -/
def namedEntries : List (Data × Data) → Except Failure (List Entry)
  | [] => .ok []
  | (.text name, value) :: entries => do
      let others ← namedEntries entries
      return (name, .data value) :: others
  | _ :: _ => .error .keyNotText

/-- `fromFile w path` is the settings in a configuration file. -/
def fromFile (w : World) (path : FilePath) : Except Failure Settings := do
  let entries ← ConfigFile.read w path
  let named ← namedEntries entries
  load w named

/-- `readAll w paths` is the entries of the files that exist, in their order. -/
def readAll (w : World) : List FilePath → Except Failure (List (Data × Data))
  | [] => .ok []
  | path :: paths => do
      let entries ← match ConfigFile.read w path with
        | .ok entries => .ok entries
        | .error (.missingFile _) => .ok []
        | .error e => .error e
      let others ← readAll w paths
      return entries ++ others

/-- `isGiven g` says that an override counts: a null does not. -/
def isGiven : Given → Bool
  | .data .null => false
  | _ => true

/-- `fromFiles w paths overrides` is the settings that files and overrides make. A name that is
given again keeps its place. -/
def fromFiles (w : World) (paths : List FilePath) (overrides : List Entry) :
    Except Failure Settings := do
  let entries ← readAll w paths
  let named ← namedEntries entries
  load w (collectFields (named ++ overrides.filter fun entry => isGiven entry.2))

/-- `isAbsent w path` says that nothing lies at a path, as far as the system tells. -/
def isAbsent (w : World) (path : FilePath) : Bool :=
  w.has path matches .ok false

/-- `filesEvents w paths` notes every file that does not exist. -/
def filesEvents (w : World) (paths : List FilePath) : List Event :=
  (paths.filter (isAbsent w)).map fun path =>
    ⟨.warning, "Configuration file not found, using defaults",
      [("config_file", .text path.text)]⟩

/-- `standardNames` is the places of standard files below the home directory, and those below the
working directory. -/
def standardNames : List (List String) × List (List String) :=
  ( [ [".config", "godotcheck", "config.yaml"], [".config", "godotcheck", "config.json"],
      [".config", "godotcheck", "config.toml"] ],
    [ [".godotcheck", "config.yaml"], [".godotcheck", "config.json"],
      [".godotcheck", "config.toml"], ["godotcheck.yaml"], ["godotcheck.json"],
      ["godotcheck.toml"] ] )

/-- `below p names` is the path of names below a path. -/
def below (p : FilePath) (names : List String) : FilePath :=
  ⟨p.anchor, p.parts ++ names⟩

/-- `isFileSurely w p` says that a file lies at a path and that this may be known. -/
def isFileSurely (w : World) (p : FilePath) : Bool :=
  match w.hasFile p with
  | .ok answer => answer
  | .error _ => false

/-- `standardFiles w` is the standard files that exist, the most telling last. -/
def standardFiles (w : World) : Except Failure (List FilePath) :=
  match w.homePath with
  | .error fault => .error (.path fault)
  | .ok home =>
      .ok ((standardNames.1.map (below home) ++ standardNames.2.map (below w.workingPath)).filter
        (isFileSurely w))

/-- `fromEnvironment w` is the settings that the environment makes alone. -/
def fromEnvironment (w : World) : Except Failure Settings :=
  load w []

/-- `current w` is the settings of a run that is told nothing more. -/
def current (w : World) : Except Failure Settings := do
  let paths ← standardFiles w
  if paths.isEmpty then fromEnvironment w else fromFiles w paths []

/-- `forCommand w file? overrides` is the settings of a command. -/
def forCommand (w : World) (file? : Option FilePath) (overrides : List Entry) :
    Except Failure Settings :=
  match file? with
  | some path => do
      if ← Failure.answered (w.has path) then fromFiles w [path] overrides
      else throw (.missingFile ("Config file not found: " ++ path.text))
  | none => do
      let paths ← standardFiles w
      fromFiles w paths overrides

end SceneLint.Settings
