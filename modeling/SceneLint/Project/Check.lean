import SceneLint.Project.Build
import SceneLint.Project.Discovery
import SceneLint.Scene.Rule
import SceneLint.Script.Rule
import SceneLint.Settings.Basic

/-!
# Checking a project

`check` finds the scripts and scenes of a project, builds them, and holds those that were built to
the rules. All scripts are built before any scene, so every scene sees every script. A file of
which nothing can be made is a general problem and does not stop the run; only a walk that fails
does. `events` is what is noted meanwhile.
-/

namespace SceneLint

/-- A `Report` is the outcome of a check. -/
structure Report where
  root : FilePath
  scripts : List Script
  scenes : List Scene
  general : List Problem
  script : List Problem
  scene : List Problem

/-- A `CheckFault` is why a check has no outcome. -/
inductive CheckFault where
  | discovery (halt : Halt)
  | file (fault : FileFault)

namespace Project

/-- `Built α` is what was made of files, and the problems of those of which nothing was made. -/
structure Built (α : Type) where
  models : List α
  problems : List Problem

/-- `buildAll build paths` builds each file; a file that fails is a problem. -/
def buildAll {α : Type} (build : FilePath → Except FileFault α) :
    List FilePath → Except FileFault (Built α)
  | [] => .ok ⟨[], []⟩
  | path :: paths =>
      match build path with
      | .ok model => (buildAll build paths).map fun built => ⟨model :: built.models, built.problems⟩
      | .error (.build fault) =>
          (buildAll build paths).map fun built =>
            ⟨built.models, fault.problem path :: built.problems⟩
      | .error fault => .error fault

/-- `rootOf s root?` is the root of a check: the one asked for, or that of the settings. -/
def rootOf (s : Settings) (root? : Option FilePath) : FilePath :=
  root?.getD s.projectRoot

/-- `find w root extension skip` is the files of an extension in a project. -/
def find (w : World) (root : FilePath) (extension : String) (skip : List String) :
    Except CheckFault (List FilePath) :=
  match Discovery.discover w root extension skip with
  | .ok paths => .ok paths
  | .error halt => .error (.discovery halt)

/-- `made built` is the outcome of building, as part of a check. -/
def made {α : Type} (built : Except FileFault (Built α)) : Except CheckFault (Built α) :=
  match built with
  | .ok built => .ok built
  | .error fault => .error (.file fault)

/-- `check w s root?` is the report on the project at a root. -/
def check (w : World) (s : Settings) (root? : Option FilePath) : Except CheckFault Report := do
  let root := rootOf s root?
  let scriptPaths ← find w root s.scriptExtension s.skipDirs
  let scenePaths ← find w root s.sceneExtension s.skipDirs
  let scripts ← made (buildAll (buildScript w s.resourceStart root) scriptPaths)
  let scenes ← made (buildAll (buildScene w scripts.models) scenePaths)
  return {
    root := root
    scripts := scripts.models
    scenes := scenes.models
    general := scripts.problems ++ scenes.problems
    script := scripts.models.flatMap (Script.problems s.failFast)
    scene := scenes.models.flatMap (Scene.problems s.masterTypes s.failFast) }

/-- `scriptChecked failFast s` notes that a script was held to the rules. -/
def scriptChecked (failFast : Bool) (s : Script) : Event :=
  ⟨.debug, "Validated script",
    [("script", .text s.fullName), ("violations", .int (s.verdict failFast).length)]⟩

/-- `sceneChecked allowed failFast s` notes that a scene was held to the rules. -/
def sceneChecked (allowed : List String) (failFast : Bool) (s : Scene) : Event :=
  ⟨.debug, "Validated scene",
    [("scene", .text s.fullName), ("violations", .int (s.verdict allowed failFast).length)]⟩

/-- `discovered root scripts scenes` notes how many files were found. -/
def discovered (root : FilePath) (scripts scenes : Nat) : Event :=
  ⟨.info, "Discovered project files",
    [("project_root", .text root.text), ("scripts", .int scripts), ("scenes", .int scenes)]⟩

/-- `finished report` notes how many problems were found. -/
def finished (report : Report) : Event :=
  ⟨.info, "Project check finished",
    [ ("general_problems", .int report.general.length),
      ("script_problems", .int report.script.length),
      ("scene_problems", .int report.scene.length) ]⟩

/-- `buildingEvents w s root scriptPaths scenePaths` is what is noted once the files are found. -/
def buildingEvents (w : World) (s : Settings) (root : FilePath)
    (scriptPaths scenePaths : List FilePath) : List Event :=
  let scripts := match buildAll (buildScript w s.resourceStart root) scriptPaths with
    | .ok built => built.models
    | .error _ => []
  let scenes := match buildAll (buildScene w scripts) scenePaths with
    | .ok built => built.models
    | .error _ => []
  [discovered root scriptPaths.length scenePaths.length] ++
    scriptPaths.flatMap (scriptEvents w s.resourceStart root) ++
    scripts.map (scriptChecked s.failFast) ++
    scenePaths.flatMap (sceneEvents w scripts) ++
    scenes.map (sceneChecked s.masterTypes s.failFast)

/-- `events w s root?` is what is noted while a project is checked. -/
def events (w : World) (s : Settings) (root? : Option FilePath) : List Event :=
  let root := rootOf s root?
  let scripts := Discovery.walk w root s.scriptExtension s.skipDirs
  let scenes := Discovery.walk w root s.sceneExtension s.skipDirs
  let building := match scripts.result, scenes.result with
    | .ok scriptPaths, .ok scenePaths => buildingEvents w s root scriptPaths scenePaths
    | _, _ => []
  let last := match check w s root? with
    | .ok report => [finished report]
    | .error _ => []
  (scripts.andThen scenes).events ++ building ++ last

end Project

end SceneLint
