import SceneLint.Diagnostic
import SceneLint.Json.Reader
import SceneLint.Project.Check
import SceneLint.Script.Header
import SceneLint.Settings.Field
import SceneLint.Toml.Scalar
import SceneLint.World.Resolve
import SceneLint.Yaml.Cursor

/-!
# Failures

A `Failure` is why an operation of the library has no result, whatever its cause. `kindName` names
the kind under which it is reported and `message` gives its wording. What is wrong with a YAML or
TOML text is worded by the host.
-/

namespace SceneLint

/-- A `SettingsOrigin` is a source of settings beside files: the environment, or the file for it. -/
inductive SettingsOrigin where
  | environment
  | environmentFile
deriving DecidableEq

/-- `SettingsOrigin.name` is the name under which an origin is reported. -/
def SettingsOrigin.name : SettingsOrigin → String
  | .environment => "EnvSettingsSource"
  | .environmentFile => "DotEnvSettingsSource"

/-- A `Failure` is why an operation has no result. -/
inductive Failure where
  | diagnostic (d : Diagnostic)
  | input (message : String) (field : Option String)
  | missingFile (message : String)
  | system (e : SystemError)
  | tooDeep (message : String)
  | invalid (errors : List FieldError)
  | unreadableSetting (setting : Setting) (origin : SettingsOrigin)
  | malformedText (e : Text.Utf8.Malformed)
  | malformedJson (e : Json.ParseError)
  | malformedYaml (fault : Yaml.Fault) (wording : String)
  | malformedToml (fault : Toml.Fault) (wording : String)
  | longNumeral (e : LongNumeral)
  | keyNotText
  | notBelow (e : NotBelow)
  | path (fault : PathFault)
  | header (fault : HeaderFault)
  | unprintable (fault : Console.PrintFault)
  | unknownKind (name : String)
  | unknownLevel (name : String)
  | value (message : String)
  | runtime (message : String)
  | unloggable

namespace Failure

/-- `levelNames` is the names of log levels in alphabetical order. -/
def levelNames : List String :=
  ["CRITICAL", "DEBUG", "ERROR", "FATAL", "INFO", "NOTSET", "WARN", "WARNING"]

/-- `systemKindName fault` names the kind of a fault of the system. -/
def systemKindName : SystemFault → String
  | .noEntry => "FileNotFoundError"
  | .denied => "PermissionError"
  | .entryExists => "FileExistsError"
  | .notDirectory => "NotADirectoryError"
  | .isDirectory => "IsADirectoryError"
  | .nameTooLong => "OSError"
  | .tooManyLinks => "OSError"

/-- `kindName f` names the kind of a failure. -/
def kindName : Failure → String
  | .diagnostic d => d.origin.kindName
  | .input _ _ => "ValidationError"
  | .missingFile _ => "FileNotFoundError"
  | .system e => systemKindName e.fault
  | .tooDeep _ => "RecursionError"
  | .invalid _ => "ValidationError"
  | .unreadableSetting _ _ => "SettingsError"
  | .malformedText _ => "UnicodeDecodeError"
  | .malformedJson _ => "JSONDecodeError"
  | .malformedYaml (.value _) _ => "ValueError"
  | .malformedYaml _ _ => "YAMLError"
  | .malformedToml _ _ => "TOMLDecodeError"
  | .longNumeral _ => "ValueError"
  | .keyNotText => "TypeError"
  | .notBelow _ => "ValueError"
  | .path .nulByte => "ValueError"
  | .path _ => "RuntimeError"
  | .header _ => "HeaderLineError"
  | .unprintable fault => fault.kindName
  | .unknownKind _ => "ValueError"
  | .unknownLevel _ => "ValueError"
  | .value _ => "ValueError"
  | .runtime _ => "RuntimeError"
  | .unloggable => "TypeError"

/-- `message f` is the wording of a failure; a diagnostic is written in full. -/
def message : Failure → String
  | .diagnostic d => d.text
  | .input message _ => message
  | .missingFile message => message
  | .system e => e.message
  | .tooDeep message => message
  | .invalid errors => FieldError.report errors
  | .unreadableSetting setting origin =>
      "error parsing value for field \"" ++ setting.key ++ "\" from source \"" ++ origin.name ++
        "\""
  | .malformedText e => e.message
  | .malformedJson e => e.message
  | .malformedYaml (.value text) _ => text
  | .malformedYaml _ wording => wording
  | .malformedToml _ wording => wording
  | .longNumeral e => e.message
  | .keyNotText => "keywords must be strings"
  | .notBelow e => e.message
  | .path fault => fault.message
  | .header fault => fault.message
  | .unprintable fault => fault.message
  | .unknownKind name => Text.quoted name ++ " is not a valid ScriptKind"
  | .unknownLevel name =>
      "Invalid log level '" ++ name ++ "'. Valid levels are: " ++ ", ".intercalate levelNames
  | .value message => message
  | .runtime message => message
  | .unloggable => ""

/-- `shortMessage f` is the wording of a failure; of a diagnostic only what is wrong. -/
def shortMessage : Failure → String
  | .diagnostic d => d.message
  | f => f.message

/-- `isMissingFile f` says that a file was not found. -/
def isMissingFile : Failure → Bool
  | .missingFile _ => true
  | .system e => e.fault = .noEntry
  | _ => false

/-- `answered told` is the answer of the system, or the failure to get one. -/
def answered : Except SystemError Bool → Except Failure Bool
  | .ok answer => .ok answer
  | .error e => .error (.system e)

/-- `ofRead e` is a failure to read a file. -/
def ofRead : ReadError → Failure
  | .system e => .system e
  | .malformed e => .malformedText e
  | .nulInPath => .path .nulByte

/-- `ofJson host e` is a failure to read a JSON document. -/
def ofJson (host : Host) (e : Json.ParseError) : Failure :=
  match e.fault with
  | .longNumeral numeral => .longNumeral numeral
  | .tooDeep => .tooDeep host.tooDeep
  | _ => .malformedJson e

/-- `ofToml wording fault` is a failure to read a TOML document. -/
def ofToml (wording : String) : Toml.Fault → Failure
  | .longNumeral numeral => .longNumeral numeral
  | fault => .malformedToml fault wording

/-- `ofBuild file e` is a failure to build the script or scene in a file. -/
def ofBuild (file : String) : FileFault → Failure
  | .build fault => .diagnostic (fault.diagnostic file)
  | .notBelow e => .notBelow e
  | .nulByte => .path .nulByte

/-- `ofHalt halt` is a failure to walk over a project. -/
def ofHalt : Halt → Failure
  | .fault fault => .diagnostic fault.diagnostic
  | .system e => .system e
  | .tooDeep message => .tooDeep message

/-- `ofCheck e` is a failure to check a project. -/
def ofCheck : CheckFault → Failure
  | .discovery halt => .ofHalt halt
  | .file fault => ofBuild "" fault

end Failure

end SceneLint
