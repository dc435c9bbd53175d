import SceneLint.Failure
import SceneLint.Settings.Basic
import SceneLint.Text.Case
import SceneLint.World.Edit

/-!
# The state of logging

`LogState` is how events are logged: from which level on, in which format, whether they go through
the renderer of the files, into which file, and whether the place of the call is added.
`LogState.configure` sets it up from settings; it makes the log file and the directories above it.
-/

namespace SceneLint

/-- A `Renderer` is a way to write an event on a line. -/
inductive Renderer where
  | console
  | json
  | structured
deriving DecidableEq

namespace Renderer

/-- `name r` is the name of a renderer. -/
def name : Renderer → String
  | .console => "console"
  | .json => "json"
  | .structured => "structured"

/-- `ofFormat format` is the renderer for a log format; every other format is shown on the
console. -/
def ofFormat (format : String) : Renderer :=
  if format = "json" then .json else if format = "structured" then .structured else .console

end Renderer

/-- A `LogState` is how events are logged. -/
structure LogState where
  level : Nat
  renderer : Renderer
  isRouted : Bool
  file : Option FilePath
  callSite : Bool
deriving DecidableEq

namespace LogState

/-- `level? name` is the number of a level in upper case. -/
def level? (name : String) : Option Nat :=
  [("CRITICAL", 50), ("FATAL", 50), ("ERROR", 40), ("WARNING", 30), ("WARN", 30), ("INFO", 20),
    ("DEBUG", 10), ("NOTSET", 0)].lookup name

/-- `maxOctets` is how large a log file grows before it is put aside. -/
def maxOctets : Nat := 10 * 1024 * 1024

/-- `backups` is how many log files that were put aside are kept. -/
def backups : Nat := 5

/-- `routedFormats` is the log formats of which the events go through the renderer of the files. -/
def routedFormats : List String := ["json", "structured"]

/-- `isTest w` says that the program runs under its tests, as far as it can see. -/
def isTest (w : World) : Bool :=
  w.host.isTest || (w.variableValue? "PYTEST_CURRENT_TEST").isSome

/-- `allows s severity` says that events of a severity are logged. -/
def allows (s : LogState) (severity : Severity) : Bool :=
  s.level ≤ severity.rank

/-- `openLog w path` makes a log file and the directories above it. -/
def openLog (w : World) (path : FilePath) : Except Failure World :=
  match w.makeDirectory path.parent with
  | .error e => .error (.system e)
  | .ok w =>
      match w.openFile path with
      | .error e => .error (.system e)
      | .ok w => .ok w

/-- `configure w s` sets up logging from settings. -/
def configure (w : World) (s : Settings) : Except Failure (LogState × World) :=
  match level? (Text.upper s.logLevel) with
  | none => .error (.unknownLevel s.logLevel)
  | some level =>
      let state : LogState :=
        { level := level
          renderer := .ofFormat s.logFormat
          isRouted := routedFormats.contains s.logFormat || isTest w
          file := s.logFile
          callSite := s.debug }
      match s.logFile with
      | none => .ok (state, w)
      | some path => (openLog w path).map fun w => (state, w)

end LogState

end SceneLint
