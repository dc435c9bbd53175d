import SceneLint.Proofs.Project.Accounting
import SceneLint.Proofs.Results

/-!
# What a report is made of

`Composed` writes every list of a report as a function of the files that discovery found: what was
built is a `filterMap` over them, and so are the problems of what was not. `composed_of_check` says
that every report is composed so. It is the form in which two reports can be compared file by file.
-/

namespace SceneLint.Project

variable {α : Type}

/-- `problem? build path` is the problem of a file of which nothing can be made. -/
def problem? (build : FilePath → Except FileFault α) (path : FilePath) : Option Problem :=
  match build path with
  | .error (.build fault) => some (fault.problem path)
  | _ => none

/-- `Composed w s root scriptPaths scenePaths report` says how a report is made of the files that
were found. -/
structure Composed (w : World) (s : Settings) (root : FilePath)
    (scriptPaths scenePaths : List FilePath) (report : Report) : Prop where
  script_paths : Discovery.discover w root s.scriptExtension s.skipDirs = .ok scriptPaths
  scene_paths : Discovery.discover w root s.sceneExtension s.skipDirs = .ok scenePaths
  root_eq : report.root = root
  scripts_eq : report.scripts =
    scriptPaths.filterMap fun path => (buildScript w s.resourceStart root path).toOption
  scenes_eq : report.scenes =
    scenePaths.filterMap fun path => (buildScene w report.scripts path).toOption
  general_eq : report.general =
    scriptPaths.filterMap (problem? (buildScript w s.resourceStart root)) ++
      scenePaths.filterMap (problem? (buildScene w report.scripts))
  script_eq : report.script = report.scripts.flatMap (Script.problems s.failFast)
  scene_eq : report.scene = report.scenes.flatMap (Scene.problems s.masterTypes s.failFast)

variable {w : World} {s : Settings} {root? : Option FilePath} {root path : FilePath}
  {paths : List FilePath} {report : Report}

/-- The problem of a file comes from a fault of that file. -/
theorem problem?_eq_some_iff {build : FilePath → Except FileFault α} {p : Problem} :
    problem? build path = some p ↔
      ∃ fault, build path = .error (.build fault) ∧ p = fault.problem path := by
  unfold problem?
  cases build path with
  | ok model => simp
  | error fault => cases fault <;> simp [eq_comm]

/-- Building all files gives what can be made of each, and the problems of the others. -/
theorem build_all_eq {build : FilePath → Except FileFault α} {built : Built α}
    (h : buildAll build paths = .ok built) :
    built.models = paths.filterMap (fun path => (build path).toOption) ∧
      built.problems = paths.filterMap (problem? build) := by
  induction paths generalizing built with
  | nil =>
      cases h
      exact ⟨rfl, rfl⟩
  | cons path paths ih =>
      rw [buildAll] at h
      split at h
      · next model hbuild =>
          obtain ⟨rest, hall, rfl⟩ := map_eq_ok_iff.1 h
          simp [problem?, hbuild, Except.toOption, ih hall]
      · next fault hbuild =>
          obtain ⟨rest, hall, rfl⟩ := map_eq_ok_iff.1 h
          simp [problem?, hbuild, Except.toOption, ih hall]
      · cases h

/-- Discovery has succeeded where the files of a check are known. -/
theorem discover_of_find_ok {extension : String} {skip : List String}
    (h : find w root extension skip = .ok paths) :
    Discovery.discover w root extension skip = .ok paths := by
  unfold find at h
  split at h
  · next hfound =>
      cases h
      exact hfound
  · cases h

/-- Everything was built or is a problem where a check has an outcome. -/
theorem build_all_of_made {built : Except FileFault (Built α)} {result : Built α}
    (h : made built = .ok result) : built = .ok result := by
  unfold made at h
  split at h
  · cases h
    rfl
  · cases h

/-- Every report is composed of the files that discovery found. -/
theorem composed_of_check (h : check w s root? = .ok report) :
    ∃ scriptPaths scenePaths,
      Composed w s (rootOf s root?) scriptPaths scenePaths report := by
  unfold check at h
  obtain ⟨scriptPaths, hscripts, h⟩ := bind_eq_ok_iff.1 h
  obtain ⟨scenePaths, hscenes, h⟩ := bind_eq_ok_iff.1 h
  obtain ⟨scripts, hbuilt, h⟩ := bind_eq_ok_iff.1 h
  obtain ⟨scenes, hlinked, h⟩ := bind_eq_ok_iff.1 h
  cases h
  obtain ⟨hmodels, hproblems⟩ := build_all_eq (build_all_of_made hbuilt)
  obtain ⟨hmodels', hproblems'⟩ := build_all_eq (build_all_of_made hlinked)
  refine ⟨scriptPaths, scenePaths, discover_of_find_ok hscripts, discover_of_find_ok hscenes, rfl,
    hmodels, hmodels', ?_, rfl, rfl⟩
  rw [hproblems, hproblems']

/-- A script is built from the text of its file and from its resource path. -/
theorem build_script_eq_ok_iff {start : String} {script : Script} :
    buildScript w start root path = .ok script ↔
      ∃ contents resource, read w path = .ok contents ∧
        Resource.ofFile start path root = .ok resource ∧
        Script.build path contents resource = .ok script := by
  unfold buildScript
  cases hread : read w path with
  | error e => simp
  | ok contents =>
      cases hresource : Resource.ofFile start path root with
      | error e => simp
      | ok resource => cases hbuild : Script.build path contents resource <;> simp [hbuild]

/-- A scene is built from the text of its file. -/
theorem build_scene_eq_ok_iff {scripts : List Script} {scene : Scene} :
    buildScene w scripts path = .ok scene ↔
      ∃ contents, read w path = .ok contents ∧ Scene.build scripts path contents = .ok scene := by
  unfold buildScene
  cases hread : read w path with
  | error e => simp
  | ok contents => cases hbuild : Scene.build scripts path contents <;> simp [hbuild]

/-- What was made of files was made of the one at its own path. -/
theorem built_of_mem {build : FilePath → Except FileFault α} {pathOf : α → FilePath} {model : α}
    (hpath : ∀ path model, build path = .ok model → pathOf model = path)
    (h : model ∈ paths.filterMap fun path => (build path).toOption) :
    pathOf model ∈ paths ∧ build (pathOf model) = .ok model := by
  obtain ⟨path, hmem, hbuild⟩ := List.mem_filterMap.1 h
  rw [to_option_eq_some_iff] at hbuild
  rw [hpath path model hbuild]
  exact ⟨hmem, hbuild⟩

namespace Composed

variable {scriptPaths scenePaths : List FilePath} {script : Script} {scene : Scene}

/-- A script of a report was built from a file that was found. -/
theorem script_built (h : Composed w s root scriptPaths scenePaths report)
    (hscript : script ∈ report.scripts) :
    script.path ∈ scriptPaths ∧ buildScript w s.resourceStart root script.path = .ok script :=
  built_of_mem (fun _ _ => build_script_path) (h.scripts_eq ▸ hscript)

/-- A scene of a report was built from a file that was found. -/
theorem scene_built (h : Composed w s root scriptPaths scenePaths report)
    (hscene : scene ∈ report.scenes) :
    scene.path ∈ scenePaths ∧ buildScene w report.scripts scene.path = .ok scene :=
  built_of_mem (fun _ _ => build_scene_path) (h.scenes_eq ▸ hscene)

end Composed

end SceneLint.Project
