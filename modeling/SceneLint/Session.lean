import SceneLint.Command.Run

/-!
# Sessions

A `Session` is a process that uses the library again and again: the world as it is now, the
settings it keeps, the loggers it has handed out, and how logging is set up. Settings are loaded
when they are first asked for and then kept until they are forgotten; a load that fails leaves
nothing behind. Logging is set up once, when the first new logger is asked for.
-/

namespace SceneLint

/-- A `Session` is a process that uses the library. -/
structure Session where
  world : World
  kept : Option Settings
  isConfigured : Bool
  loggers : List String
  log : LogState

namespace Session

/-- `ownLoggers` is the loggers that the parts of the program hold from the start. -/
def ownLoggers : List String :=
  [ "godotcheck.checker", "godotcheck.common.file_source", "godotcheck.parser.script_parser",
    "godotcheck.parser.scene_parser", "godotcheck.validators.script_validator",
    "godotcheck.validators.scene_validator", "godotcheck.cli.main",
    "godotcheck.cli.utils.error_handler", "godotcheck.cli.commands.check" ]

/-- `start w` is a new session: settings are loaded and logging is set up at once. -/
def start (w : World) : Except Failure Session := do
  let settings ← Settings.current w
  let (log, w) ← LogState.configure w settings
  return ⟨w, some settings, true, ownLoggers, log⟩

/-- `settings s` is the settings that are kept, or else those loaded now; `true` says that they
were kept. The session keeps what was loaded. -/
def settings (s : Session) : Except Failure ((Settings × Bool) × Session) :=
  match s.kept with
  | some settings => .ok ((settings, true), s)
  | none =>
      match Settings.current s.world with
      | .ok settings => .ok ((settings, false), { s with kept := some settings })
      | .error f => .error f

/-- `keep s settings` makes a session keep settings. -/
def keep (s : Session) (settings : Settings) : Session :=
  { s with kept := some settings }

/-- `forget s` makes a session forget its settings and loggers, and that logging was set up. -/
def forget (s : Session) : Session :=
  { s with kept := none, isConfigured := false, loggers := [] }

/-- `configure s settings` sets up logging from settings. -/
def configure (s : Session) (settings : Settings) : Except Failure Session :=
  (LogState.configure s.world settings).map fun made => { s with log := made.1, world := made.2 }

/-- A `Logger` is the answer to who asks for a logger: whether it was handed out before. -/
structure Logger where
  wasKnown : Bool

/-- `logger s name` hands out a logger. It gives the session behind it even where it fails, since
settings that were loaded are kept. -/
def logger (s : Session) (name : String) : Except Failure Logger × Session :=
  if s.loggers.contains name then (.ok ⟨true⟩, s)
  else if s.isConfigured then (.ok ⟨false⟩, { s with loggers := s.loggers ++ [name] })
  else
    match s.settings with
    | .error f => (.error f, s)
    | .ok ((settings, _), s) =>
        match s.configure settings with
        | .error f => (.error f, s)
        | .ok s =>
            (.ok ⟨false⟩, { s with isConfigured := true, loggers := s.loggers ++ [name] })

end Session

end SceneLint
