import SceneLint.Command.Arguments
import SceneLint.Command.Outcome
import SceneLint.Command.PathInput
import SceneLint.Console.Outline
import SceneLint.Project.Summary
import SceneLint.Settings.Load

/-!
# Running commands

`run` is one run of the program on a command line. It loads the settings and sets up logging, reads
the global options, and runs a command: `check` checks a project and ends with a code that says
whether there were problems, `config show` shows the settings in force, and `version` the version.
-/

namespace SceneLint.Command

/-- `usage` is the text that explains the usage. -/
def usage : String :=
  "Usage: godotcheck [OPTIONS] COMMAND [ARGS]...\n\n" ++
  "  check [PATH] [--config FILE] [--json] [--all-violations] [--skip-dir NAME]\n" ++
  "        [--exit-zero] [--verbose]\n" ++
  "  config show [--config FILE] [--json]\n" ++
  "  version [--json]\n"

/-- `misuse` is the outcome of words that cannot be read. -/
def misuse : Outcome := ⟨Outcome.fatalCode, "", usage, none, []⟩

/-- `explained` is the outcome of asking for help. -/
def explained : Outcome := ⟨0, usage, "", none, []⟩

/-- `problemsCode` is the exit code of a check that found problems. -/
def problemsCode : Int := 1

/-- `version` is the version of the program. -/
def version : String := "0.1.0"

/-- `fail host log verbose json events f` is a command that ends with a failure. -/
def fail (host : Host) (log : LogState) (verbose json : Bool) (events : List Event) (f : Failure) :
    Outcome :=
  let told := (Outcome.ofFailure host verbose json Outcome.fatalCode f).logged log json f
  { told with events := events ++ told.events }

/-- `rootOverride w path?` is the root that a command line asks for. -/
def rootOverride (w : World) : Option String → Except Failure (List Settings.Entry)
  | none => .ok []
  | some path => do
      let root ← PathInput.validate w .directory (.path (.ofString path))
      return [(Setting.projectRoot.key, .path root)]

/-- `overrides o root` is the settings that a command line overrides. -/
def overrides (o : CheckOptions) (root : List Settings.Entry) : List Settings.Entry :=
  root ++
    (if o.allViolations then [(Setting.failFast.key, .data (.bool false))] else []) ++
    (if o.skipDirs.isEmpty then [] else [(Setting.skipDirs.key, .data (.ofTexts o.skipDirs))])

/-- `configPath w path?` is the configuration file that a command line names. -/
def configPath (w : World) : Option String → Except Failure (Option FilePath)
  | none => .ok none
  | some path => (PathInput.validate w .config (.path (.ofString path))).map some

/-- `invalidConfiguration errors` tells a user that settings do not fit. -/
def invalidConfiguration (errors : List FieldError) : Diagnostic :=
  let first := match errors.head? with
    | some e => e.fault.message
    | none => ""
  ⟨.configuration, "Invalid configuration",
    some "Check the values in your config file and environment",
    some [("errors", .int errors.length), ("first", .text first)]⟩

/-- `checkSettings w o` is the settings of a check. -/
def checkSettings (w : World) (o : CheckOptions) : Except Failure Settings := do
  let root ← rootOverride w o.path
  let config ← configPath w o.config
  match Settings.forCommand w config (overrides o root) with
  | .ok settings => .ok settings
  | .error (.invalid errors) => .error (.diagnostic (invalidConfiguration errors))
  | .error f => .error f

/-- `checking s` notes that a check begins. -/
def checking (s : Settings) : Event :=
  ⟨.debug, "Checking project", [("project_root", .text s.projectRoot.text)]⟩

/-- `checkCode o s` is the exit code of a check with a summary. -/
def checkCode (o : CheckOptions) (s : Summary) : Int :=
  if s.hasProblems && !o.exitZero then problemsCode else 0

/-- `reported host o s events` is a check that printed its summary. -/
def reported (host : Host) (o : CheckOptions) (s : Summary) (events : List Event) : Outcome :=
  if o.json then ⟨checkCode o s, s.toJson.render ++ "\n", "", none, events⟩
  else Outcome.printing host (checkCode o s) s.markup events

/-- `check w log o` is the command that checks a project. -/
def check (w : World) (log : LogState) (o : CheckOptions) : Outcome :=
  match checkSettings w o with
  | .error f => fail w.host log o.verbose o.json [] f
  | .ok settings =>
      let events := checking settings :: Project.events w settings none
      match Project.check w settings none with
      | .error e => fail w.host log o.verbose o.json events (.ofCheck e)
      | .ok report => reported w.host o report.summary events

/-- `groups` is the settings as they are shown, group by group. -/
def groups : List (String × List Setting) :=
  [ ("project",
      [.projectRoot, .scriptExtension, .sceneExtension, .skipDirs, .resourceStart]),
    ("rules", [.masterTypes, .failFast]),
    ("logging", [.debug, .logLevel, .logFormat, .logFile]) ]

/-- `valueOf s setting` is the value of a field. -/
def valueOf (s : Settings) : Setting → Data
  | .projectRoot => .text s.projectRoot.text
  | .scriptExtension => .text s.scriptExtension
  | .sceneExtension => .text s.sceneExtension
  | .skipDirs => .ofTexts s.skipDirs
  | .resourceStart => .text s.resourceStart
  | .masterTypes => .ofTexts s.masterTypes
  | .failFast => .bool s.failFast
  | .debug => .bool s.debug
  | .logLevel => .text s.logLevel
  | .logFormat => .text s.logFormat
  | .logFile => .ofText? (s.logFile.map FilePath.text)

/-- `settingLeaf s setting` is the line of a field. -/
def settingLeaf (s : Settings) (setting : Setting) : Console.Outline :=
  .node (setting.key ++ ": [green]" ++ (valueOf s setting).display ++ "[/green]") []

/-- `outline s` is the settings as an outline. -/
def outline (s : Settings) : Console.Outline :=
  .node "[bold cyan]godotcheck configuration[/bold cyan]"
    (groups.map fun group =>
      .node ("[bold]" ++ group.1 ++ "[/bold]") (group.2.map (settingLeaf s)))

/-- `configShow w log o` is the command that shows the settings in force. -/
def configShow (w : World) (log : LogState) (o : ShowOptions) : Outcome :=
  match Settings.forCommand w (o.config.map FilePath.ofString) [] with
  | .error f => fail w.host log false o.json [] f
  | .ok settings =>
      if o.json then ⟨0, settings.toJson.document ++ "\n", "", none, []⟩
      else
        match (outline settings).shown w.host.terminal with
        | .error fault => .crashed (.unprintable fault)
        | .ok text => ⟨0, text, "", none, []⟩

/-- `showVersion host json` is the command that shows the version. -/
def showVersion (host : Host) (json : Bool) : Outcome :=
  if json then
    let document := (Json.object [("name", .text "godotcheck"), ("version", .text version),
      ("description", .text "Convention linter for Godot scripts and scenes")]).document
    ⟨0, document ++ "\n", "", none, []⟩
  else Outcome.printing host 0 ("godotcheck v" ++ version) []

/-- `Parsed.outcome p act` acts on words that were read. -/
def Parsed.outcome {α : Type} (p : Parsed α) (act : α → Outcome) : Outcome :=
  match p with
  | .ok a => act a
  | .help => explained
  | .misused => misuse

/-- `configGroup w log words` runs a command of the group about the configuration. -/
def configGroup (w : World) (log : LogState) (words : List String) : Outcome :=
  (parseGroup words).outcome fun rest =>
    match rest with
    | "show" :: words => (parseShow words).outcome (configShow w log)
    | _ => misuse

/-- `commands` is the commands of the program. -/
def commands : List (String × (World → LogState → List String → Outcome)) :=
  [ ("check", fun w log words => (parseCheck words).outcome (check w log)),
    ("config", configGroup),
    ("version", fun w _ words => (parseVersion words).outcome (showVersion w.host)) ]

/-- `raised o s` is the settings with the log level that the global options ask for. -/
def raised (o : GlobalOptions) (s : Settings) : Settings :=
  if o.debug then { s with logLevel := "DEBUG", debug := true }
  else if o.verbose then { s with logLevel := "INFO" }
  else s

/-- `raisedEvents o` notes that the log level was raised. -/
def raisedEvents (o : GlobalOptions) : List Event :=
  if o.debug then [⟨.debug, "Debug mode enabled", []⟩]
  else if o.verbose then [⟨.info, "Verbose mode enabled", []⟩]
  else []

/-- `dispatch w settings log o` runs the command behind the global options. -/
def dispatch (w : World) (settings : Settings) (log : LogState) (o : GlobalOptions) : Outcome :=
  match o.rest with
  | [] => misuse
  | name :: words =>
      match commands.lookup name with
      | none => misuse
      | some command =>
          let configured := if o.debug || o.verbose then
              LogState.configure w (raised o settings)
            else .ok (log, w)
          match configured with
          | .error f => .crashed f
          | .ok (log, w) =>
              let outcome := command w log words
              { outcome with events := raisedEvents o ++ outcome.events }

/-- `run w words` is one run of the program, and the world behind it. -/
def run (w : World) (words : List String) : Outcome × World :=
  match Settings.current w with
  | .error f => (.crashed f, w)
  | .ok settings =>
      match LogState.configure w settings with
      | .error f => (.crashed f, w)
      | .ok (log, w) => ((parseGlobal words).outcome (dispatch w settings log), w)

/-- `logState? w words` is how the events of a run are logged. -/
def logState? (w : World) (words : List String) : Option LogState :=
  match Settings.current w with
  | .error _ => none
  | .ok settings =>
      let settings := match parseGlobal words with
        | .ok o => raised o settings
        | _ => settings
      (LogState.configure w settings).toOption.map (·.1)

end SceneLint.Command
