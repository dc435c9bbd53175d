import SceneLint.Path.DrivePath

/-!
# Resource paths

Scenes name files by resource paths: a fixed start and the way from the project's root, divided by
forward slashes on every system.
-/

namespace SceneLint.Resource

/-- `slashed s` writes every backslash as a forward slash. -/
def slashed (s : String) : String :=
  String.ofList (s.toList.map fun c => if c = '\\' then '/' else c)

/-- `ofFile start path root` is the resource path of a file below `root`. -/
def ofFile (start : String) (path root : FilePath) : Except NotBelow String :=
  (path.relativeTo root).map fun way => start ++ slashed way.text

/-- `ofDriveFile start path root` is the resource path of a file on a drive below `root`. -/
def ofDriveFile (start : String) (path root : DrivePath) : Except NotBelow String :=
  (path.relativeTo root).map fun way => start ++ slashed way.text

end SceneLint.Resource
