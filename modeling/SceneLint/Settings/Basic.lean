import SceneLint.Json.Basic
import SceneLint.Path.FilePath

/-!
# Settings

`Settings` is what a run is told: where the project is, which files count, which conventions hold,
and how to log. `Setting` names its eleven fields, in the order in which they are read, checked
and shown.
-/

namespace SceneLint

/-- `Settings` is what a run is told. -/
structure Settings where
  projectRoot : FilePath
  scriptExtension : String
  sceneExtension : String
  skipDirs : List String
  resourceStart : String
  masterTypes : List String
  failFast : Bool
  debug : Bool
  logLevel : String
  logFormat : String
  logFile : Option FilePath
deriving DecidableEq

/-- A `Setting` is one of the fields of the settings. -/
inductive Setting where
  | projectRoot
  | scriptExtension
  | sceneExtension
  | skipDirs
  | resourceStart
  | masterTypes
  | failFast
  | debug
  | logLevel
  | logFormat
  | logFile
deriving DecidableEq

namespace Setting

/-- `all` is the fields in their order. -/
def all : List Setting :=
  [.projectRoot, .scriptExtension, .sceneExtension, .skipDirs, .resourceStart, .masterTypes,
    .failFast, .debug, .logLevel, .logFormat, .logFile]

/-- `key f` is the name under which sources give a field. -/
def key : Setting → String
  | .projectRoot => "project_root"
  | .scriptExtension => "script_extension"
  | .sceneExtension => "scene_extension"
  | .skipDirs => "skip_dirs"
  | .resourceStart => "resource_prefix"
  | .masterTypes => "allowed_master_types"
  | .failFast => "fail_fast"
  | .debug => "debug"
  | .logLevel => "log_level"
  | .logFormat => "log_format"
  | .logFile => "log_file"

/-- `isList f` says that a field holds a list. -/
def isList : Setting → Bool
  | .skipDirs => true
  | .masterTypes => true
  | _ => false

/-- `ofKey? key` is the field of a key. -/
def ofKey? (key : String) : Option Setting :=
  all.find? (·.key == key)

end Setting

namespace Settings

/-- `default root` is the settings of a run in the directory `root` that is told nothing. -/
def default (root : FilePath) : Settings :=
  ⟨root, "gd", "tscn", [".godot", "addons"], "res://", ["Node", "Node2D", "Node3D"], true, false,
    "WARNING", "console", none⟩

/-- `toJson s` is the settings as an object, field by field. -/
def toJson (s : Settings) : Json :=
  .object
    [ (Setting.projectRoot.key, .text s.projectRoot.text),
      (Setting.scriptExtension.key, .text s.scriptExtension),
      (Setting.sceneExtension.key, .text s.sceneExtension),
      (Setting.skipDirs.key, .list (s.skipDirs.map .text)),
      (Setting.resourceStart.key, .text s.resourceStart),
      (Setting.masterTypes.key, .list (s.masterTypes.map .text)),
      (Setting.failFast.key, .bool s.failFast),
      (Setting.debug.key, .bool s.debug),
      (Setting.logLevel.key, .text s.logLevel),
      (Setting.logFormat.key, .text s.logFormat),
      (Setting.logFile.key, match s.logFile with
        | some path => .text path.text
        | none => .null) ]

end Settings

end SceneLint
