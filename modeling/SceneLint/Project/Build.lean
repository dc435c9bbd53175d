import SceneLint.Diagnostic
import SceneLint.Event
import SceneLint.Path.Resource
import SceneLint.Scene.Basic
import SceneLint.World.Basic

/-!
# Building scripts and scenes from files

`buildScript` and `buildScene` read a file and make a script or scene of it. A file that cannot be
read, or of which nothing can be made, is a `BuildFault`; it concerns that file only. A path
outside the project's root, or one that no system accepts, is a fault of the caller.
-/

namespace SceneLint

/-- A `BuildFault` is why nothing can be made of a file. -/
inductive BuildFault where
  | unreadable (path reason : String)
  | script (fault : ScriptFault)
  | scene (fault : SceneFault)
deriving DecidableEq

namespace BuildFault

/-- `code f` is the code under which a fault is reported. -/
def code : BuildFault → String
  | .unreadable _ _ => "read"
  | .script (.shortName _) => "name"
  | .script (.header _ _ _) => "header"
  | .script (.repeatedClassName _) => "duplicate-class-name"
  | .script (.repeatedBase _) => "duplicate-extends"
  | .scene (.unclosedResource _) => "script-resource"
  | .scene .noMaster => "master-node"
  | .scene (.untypedMaster _) => "master-node"
  | .scene (.unclosedType _) => "master-node"

/-- `wording f` is what is said of a file behind its name. -/
def wording : BuildFault → String
  | .unreadable _ reason => "could not be read: " ++ reason
  | .script (.shortName kind) =>
      "file stem is too short to remove the " ++ kind.lowerName ++ " prefix"
  | .script (.header _ fault _) => fault.message
  | .script (.repeatedClassName _) => "multiple class_names"
  | .script (.repeatedBase _) => "multiple extends"
  | .scene (.unclosedResource _) => "no ending \" on script ext_resource path"
  | .scene .noMaster => "no master node"
  | .scene (.untypedMaster _) => "no type on master node"
  | .scene (.unclosedType _) => "can't find end of type on master node"

/-- `hint f` says how a fault is mended, where that is not plain. -/
def hint : BuildFault → Option String
  | .scene .noMaster => some "Scenes need at least one \"[node ...]\" entry"
  | _ => none

/-- `details f` says where in the file the fault lies. -/
def details : BuildFault → Option (List (String × Data))
  | .unreadable path _ => some [("path", .text path)]
  | .script (.shortName _) => none
  | .script (.header line _ text) => some [("line", .int line), ("text", .text text)]
  | .script (.repeatedClassName line) => some [("line", .int line)]
  | .script (.repeatedBase line) => some [("line", .int line)]
  | .scene .noMaster => none
  | .scene (.unclosedResource text) => some [("text", .text text)]
  | .scene (.untypedMaster text) => some [("text", .text text)]
  | .scene (.unclosedType text) => some [("text", .text text)]

/-- `message f file` is what is said of the file at fault. -/
def message (f : BuildFault) (file : String) : String :=
  file ++ " " ++ f.wording

/-- `diagnostic f file` tells a user of a fault. -/
def diagnostic (f : BuildFault) (file : String) : Diagnostic :=
  ⟨.build (some file) f.code, f.message file, f.hint, f.details⟩

/-- `problem f path` is the problem of the file at `path`. -/
def problem (f : BuildFault) (path : FilePath) : Problem :=
  ⟨path.name, path.text, f.code, f.message path.name⟩

end BuildFault

/-- A `FileFault` is why a file was not built: a fault of the file, or one of the caller. -/
inductive FileFault where
  | build (fault : BuildFault)
  | notBelow (e : NotBelow)
  | nulByte

namespace Project

/-- `read w path` is the text of a source file. -/
def read (w : World) (path : FilePath) : Except FileFault String :=
  match w.readText path with
  | .ok contents => .ok contents
  | .error .nulInPath => .error .nulByte
  | .error e => .error (.build (.unreadable path.text e.message))

/-- `buildScript w start root path` is the script at a path below `root`; resource paths begin
with `start`. -/
def buildScript (w : World) (start : String) (root path : FilePath) :
    Except FileFault Script :=
  match read w path with
  | .error e => .error e
  | .ok contents =>
      match Resource.ofFile start path root with
      | .error e => .error (.notBelow e)
      | .ok resource =>
          match Script.build path contents resource with
          | .error fault => .error (.build (.script fault))
          | .ok script => .ok script

/-- `buildScene w scripts path` is the scene at a path, linked to one of the scripts. -/
def buildScene (w : World) (scripts : List Script) (path : FilePath) : Except FileFault Scene :=
  match read w path with
  | .error e => .error e
  | .ok contents =>
      match Scene.build scripts path contents with
      | .error fault => .error (.build (.scene fault))
      | .ok scene => .ok scene

/-- `scriptBuilt s` notes that a script was built. -/
def scriptBuilt (s : Script) : Event :=
  ⟨.debug, "Built script",
    [ ("script", .text s.fullName), ("kind", .text s.kind.name),
      ("class_name", .ofText? s.className), ("extends", .ofText? s.base) ]⟩

/-- `sceneBuilt s` notes that a scene was built. -/
def sceneBuilt (s : Scene) : Event :=
  ⟨.debug, "Built scene",
    [ ("scene", .text s.fullName), ("gd_type", .text s.masterType),
      ("has_children", .bool s.hasChildren),
      ("script", .ofText? (s.script.map (·.fullName))) ]⟩

/-- `unmatched scripts path contents` notes a script resource that no script is known by. -/
def unmatched (scripts : List Script) (path : FilePath) (contents : String) : List Event :=
  match Scene.scriptResource (Text.lines contents.toList) with
  | .ok (some resource) =>
      match Scene.linked? scripts (some resource) with
      | some _ => []
      | none =>
          [⟨.debug, "Scene script resource matches no script",
            [("scene", .text path.name), ("resource", .text resource)]⟩]
  | _ => []

/-- `failed path fault` notes that nothing was built of a file. -/
def failed (path : FilePath) (fault : BuildFault) : Event :=
  ⟨.warning, "Could not build model",
    [("path", .text path.text), ("error", .text (fault.message path.name))]⟩

/-- `scriptEvents w start root path` is what is noted while a script is built. -/
def scriptEvents (w : World) (start : String) (root path : FilePath) : List Event :=
  match buildScript w start root path with
  | .ok script => [scriptBuilt script]
  | .error (.build fault) => [failed path fault]
  | .error _ => []

/-- `sceneEvents w scripts path` is what is noted while a scene is built. -/
def sceneEvents (w : World) (scripts : List Script) (path : FilePath) : List Event :=
  let resource := match read w path with
    | .ok contents => unmatched scripts path contents
    | .error _ => []
  match buildScene w scripts path with
  | .ok scene => resource ++ [sceneBuilt scene]
  | .error (.build fault) => resource ++ [failed path fault]
  | .error _ => resource

end Project

end SceneLint
