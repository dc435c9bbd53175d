import Mathlib.Data.List.Forall2
import SceneLint.Project.Check
import SceneLint.Proofs.Project.Discovered
import SceneLint.Proofs.Scene.Scan
import SceneLint.Proofs.Script.Headers

/-!
# Every file of a project is accounted for

A check either has no outcome, because the project cannot be walked, or accounts for every file that
discovery finds. What ends the walk is not always a fault that discovery reports
(`check_long_target`), but it is never anything that a file holds. `Accounted` says what that means
for the files of one kind: each is built or is a problem, in the order of discovery, and no file is
lost or counted twice. `check_accounts` says it of a whole run.

A build can fail for two reasons that are no fault of the file, a path outside the root and a path
that no system accepts. Neither arises for a path that discovery finds (`build_script_contained`,
`build_scene_contained`), so no file can stop a run.
-/

namespace SceneLint.Project

variable {α : Type}

/-- `Accounted build pathOf paths models problems` says that each of `paths` was built or is a
problem, one or the other and once, in the order of `paths`. -/
structure Accounted (build : FilePath → Except FileFault α) (pathOf : α → FilePath)
    (paths : List FilePath) (models : List α) (problems : List Problem) : Prop where
  built : List.Forall₂ (fun path model => build path = .ok model ∧ pathOf model = path)
    (paths.filter fun path => (build path).isOk) models
  failed : List.Forall₂
    (fun path problem => ∃ fault, build path = .error (.build fault) ∧ problem = fault.problem path)
    (paths.filter fun path => !(build path).isOk) problems
  order : (models.map pathOf).Sublist paths
  once : ∀ path ∈ paths,
    (models.map pathOf).count path + (problems.map (·.path)).count path.text = 1

/-- `Accounts w s root scriptPaths scenePaths report` says that a report accounts for every script
and every scene of a project, and that it lists the verdicts on all that was built. -/
structure Accounts (w : World) (s : Settings) (root : FilePath)
    (scriptPaths scenePaths : List FilePath) (report : Report) : Prop where
  root_eq : report.root = root
  general_eq : ∃ scripts scenes, report.general = scripts ++ scenes ∧
    Accounted (buildScript w s.resourceStart root) Script.path scriptPaths report.scripts scripts ∧
    Accounted (buildScene w report.scripts) Scene.path scenePaths report.scenes scenes
  script_eq : report.script = report.scripts.flatMap (Script.problems s.failFast)
  scene_eq : report.scene = report.scenes.flatMap (Scene.problems s.masterTypes s.failFast)

/-! ## A failure concerns one file -/

/-- `Contained outcome` says that a build that fails does so for a fault of its file. -/
def Contained (outcome : Except FileFault α) : Prop :=
  ∀ fault, outcome = .error fault → ∃ e, fault = .build e

variable {w : World} {root path : FilePath}

/-- Reading a file can fail only for a fault of the file, if its path is one. -/
theorem read_contained (hnul : World.hasNul path = false) : Contained (read w path) := by
  intro fault h
  unfold read at h
  split at h
  · cases h
  · next hread =>
      -- Reading blames the caller for a NUL in the path only, and there is none.
      simp only [World.readText, World.content, hnul, Bool.false_eq_true, ↓reduceIte] at hread
      repeat' split at hread
      all_goals cases hread
  · cases h
    exact ⟨_, rfl⟩

/-- Building a script below the root can fail only for a fault of the file. -/
theorem build_script_contained (start : String) (hnul : World.hasNul path = false)
    (hbelow : FilePath.Below root path) : Contained (buildScript w start root path) := by
  intro fault h
  obtain ⟨resource, hresource⟩ := FilePath.of_file_of_below start hbelow
  simp only [buildScript, hresource] at h
  split at h
  · next hread =>
      cases h
      exact read_contained hnul _ hread
  · split at h
    · cases h
      exact ⟨_, rfl⟩
    · cases h

/-- Building a scene can fail only for a fault of the file, if its path is one. -/
theorem build_scene_contained (scripts : List Script) (hnul : World.hasNul path = false) :
    Contained (buildScene w scripts path) := by
  intro fault h
  unfold buildScene at h
  split at h
  · next hread =>
      cases h
      exact read_contained hnul _ hread
  · split at h
    · cases h
      exact ⟨_, rfl⟩
    · cases h

/-- A script remembers the path it was built from. -/
theorem build_script_path {start : String} {script : Script}
    (h : buildScript w start root path = .ok script) : script.path = path := by
  unfold buildScript at h
  split at h
  · cases h
  · split at h
    · cases h
    · split at h
      · cases h
      · next hbuild =>
          cases h
          obtain ⟨_, _, _, _, rfl⟩ := Script.build_eq_ok_iff.1 hbuild
          rfl

/-- A scene remembers the path it was built from. -/
theorem build_scene_path {scripts : List Script} {scene : Scene}
    (h : buildScene w scripts path = .ok scene) : scene.path = path := by
  unfold buildScene at h
  split at h
  · cases h
  · split at h
    · cases h
    · next hbuild =>
        cases h
        obtain ⟨_, _, _, _, rfl⟩ := Scene.build_eq_ok_iff.1 hbuild
        rfl

/-! ## Building all files -/

variable {build : FilePath → Except FileFault α} {pathOf : α → FilePath} {paths : List FilePath}

/-- Lists that are related item by item have the same images, if related items have. -/
theorem map_eq_map_of_forall₂ {β γ : Type} {R : α → β → Prop} {as : List α} {bs : List β}
    {f : β → γ} {g : α → γ} (h : List.Forall₂ R as bs) (himage : ∀ a b, R a b → f b = g a) :
    bs.map f = as.map g := by
  induction h with
  | nil => rfl
  | cons hab _ ih => rw [List.map_cons, List.map_cons, himage _ _ hab, ih]

/-- A path that is told apart by its text occurs as often as its text does. -/
theorem count_text (h : ∀ other ∈ paths, other.text = path.text → other = path) :
    (paths.map FilePath.text).count path.text = paths.count path := by
  rw [List.count, List.countP_map, List.count]
  apply List.countP_congr
  intro other hother
  simp only [Function.comp_apply, beq_iff_eq]
  exact ⟨h other hother, fun heq => heq ▸ rfl⟩

/-- A path found once is among those of one kind, or of the other. -/
theorem count_filter_add (hnodup : paths.Nodup) (keep : FilePath → Bool) (hpath : path ∈ paths) :
    (paths.filter keep).count path + (paths.filter fun p => !keep p).count path = 1 := by
  have hcount := List.count_eq_one_of_mem hnodup hpath
  cases hkeep : keep path with
  | true =>
      have hnot : path ∉ paths.filter fun p => !keep p := by simp [hkeep]
      rw [List.count_filter (by simpa using hkeep), List.count_eq_zero_of_not_mem hnot, hcount]
  | false =>
      have hnot : path ∉ paths.filter keep := by simp [hkeep]
      rw [List.count_eq_zero_of_not_mem hnot, List.count_filter (by simpa using hkeep), hcount]

/-- Building files of which each can fail only for itself builds those that can be built, and makes
a problem of each other. -/
theorem build_all_ok (hpath : ∀ path model, build path = .ok model → pathOf model = path)
    (h : ∀ path ∈ paths, Contained (build path)) :
    ∃ built : Built α, buildAll build paths = .ok built ∧
      List.Forall₂ (fun path model => build path = .ok model ∧ pathOf model = path)
        (paths.filter fun path => (build path).isOk) built.models ∧
      List.Forall₂
        (fun path problem =>
          ∃ fault, build path = .error (.build fault) ∧ problem = fault.problem path)
        (paths.filter fun path => !(build path).isOk) built.problems := by
  induction paths with
  | nil => exact ⟨⟨[], []⟩, rfl, .nil, .nil⟩
  | cons path paths ih =>
      obtain ⟨built, hall, hmodels, hproblems⟩ :=
        ih fun other hother => h other (List.mem_cons_of_mem _ hother)
      cases hbuild : build path with
      | ok model =>
          refine ⟨⟨model :: built.models, built.problems⟩, ?_, ?_, ?_⟩
          · simp [buildAll, hbuild, hall, Except.map]
          · simpa [List.filter_cons, hbuild, Except.isOk, Except.toBool] using
              ⟨hpath path model hbuild, hmodels⟩
          · simpa [List.filter_cons, hbuild, Except.isOk, Except.toBool] using hproblems
      | error fault =>
          obtain ⟨e, rfl⟩ := h path (by simp) fault hbuild
          refine ⟨⟨built.models, e.problem path :: built.problems⟩, ?_, ?_, ?_⟩
          · simp [buildAll, hbuild, hall, Except.map]
          · simpa [List.filter_cons, hbuild, Except.isOk, Except.toBool] using hmodels
          · simpa [List.filter_cons, hbuild, Except.isOk, Except.toBool] using hproblems

/-- Building files of different paths, of which each can fail only for itself, accounts for all of
them. -/
theorem build_all_accounted (hpath : ∀ path model, build path = .ok model → pathOf model = path)
    (h : ∀ path ∈ paths, Contained (build path)) (hnodup : paths.Nodup)
    (htext : ∀ path ∈ paths, ∀ other ∈ paths, other.text = path.text → other = path) :
    ∃ built : Built α, buildAll build paths = .ok built ∧
      Accounted build pathOf paths built.models built.problems := by
  obtain ⟨built, hall, hmodels, hproblems⟩ := build_all_ok hpath h
  have hbuilt : built.models.map pathOf = paths.filter fun path => (build path).isOk := by
    have hmap := map_eq_map_of_forall₂ hmodels (f := pathOf) (g := id) fun _ _ h => h.2
    simpa using hmap
  have hfailed : built.problems.map (·.path) =
      (paths.filter fun path => !(build path).isOk).map FilePath.text := by
    apply map_eq_map_of_forall₂ hproblems
    rintro path problem ⟨fault, _, rfl⟩
    rfl
  refine ⟨built, hall, hmodels, hproblems, ?_, ?_⟩
  · rw [hbuilt]
    exact List.filter_sublist
  · intro path hmem
    have hother : ∀ other ∈ paths.filter fun p => !(build p).isOk,
        other.text = path.text → other = path :=
      fun other hother => htext path hmem other (List.mem_filter.1 hother).1
    rw [hbuilt, hfailed, count_text hother]
    exact count_filter_add hnodup _ hmem

/-! ## A whole check -/

variable {s : Settings} {root? : Option FilePath} {scriptPaths scenePaths : List FilePath}

/-- A discovery that fails is why a check fails. -/
theorem check_of_discover_error {halt : Halt}
    (h : Discovery.discover w (rootOf s root?) s.scriptExtension s.skipDirs = .error halt) :
    check w s root? = .error (.discovery halt) := by
  simp [check, find, h, bind, Except.bind]

/-- Once both kinds of files are found and all are built or problems, there is a report. -/
theorem check_of_built {scripts : Built Script} {scenes : Built Scene}
    (hscripts : Discovery.discover w (rootOf s root?) s.scriptExtension s.skipDirs =
      .ok scriptPaths)
    (hscenes : Discovery.discover w (rootOf s root?) s.sceneExtension s.skipDirs =
      .ok scenePaths)
    (hbuilt : buildAll (buildScript w s.resourceStart (rootOf s root?)) scriptPaths = .ok scripts)
    (hlinked : buildAll (buildScene w scripts.models) scenePaths = .ok scenes) :
    check w s root? = .ok
      { root := rootOf s root?
        scripts := scripts.models
        scenes := scenes.models
        general := scripts.problems ++ scenes.problems
        script := scripts.models.flatMap (Script.problems s.failFast)
        scene := scenes.models.flatMap (Scene.problems s.masterTypes s.failFast) } := by
  simp [check, find, made, hscripts, hscenes, hbuilt, hlinked, bind, Except.bind, pure,
    Except.pure]

/-- Building the scripts that discovery finds accounts for all of them. -/
theorem scripts_accounted (hw : w.tree.WellFormed) (start : String) {extension : String}
    {skip : List String} (h : Discovery.discover w root extension skip = .ok paths) :
    ∃ built, buildAll (buildScript w start root) paths = .ok built ∧
      Accounted (buildScript w start root) Script.path paths built.models built.problems := by
  apply build_all_accounted
  · exact fun _ _ hbuild => build_script_path hbuild
  · exact fun path hpath => build_script_contained start
      (Discovery.has_nul_of_mem_discover hw h hpath) (Discovery.below_of_mem_discover hw h hpath)
  · exact Discovery.discover_nodup hw h
  · exact fun path hpath other hother => FilePath.text_injective_of_below
      (Discovery.below_of_mem_discover hw h hother) (Discovery.below_of_mem_discover hw h hpath)

/-- Building the scenes that discovery finds accounts for all of them. -/
theorem scenes_accounted (hw : w.tree.WellFormed) (scripts : List Script) {extension : String}
    {skip : List String} (h : Discovery.discover w root extension skip = .ok paths) :
    ∃ built, buildAll (buildScene w scripts) paths = .ok built ∧
      Accounted (buildScene w scripts) Scene.path paths built.models built.problems := by
  apply build_all_accounted
  · exact fun _ _ hbuild => build_scene_path hbuild
  · exact fun path hpath => build_scene_contained scripts
      (Discovery.has_nul_of_mem_discover hw h hpath)
  · exact Discovery.discover_nodup hw h
  · exact fun path hpath other hother => FilePath.text_injective_of_below
      (Discovery.below_of_mem_discover hw h hother) (Discovery.below_of_mem_discover hw h hpath)

/-- A check of a project whose scripts can be found has a report that accounts for every file. -/
theorem check_ok_accounts (hw : w.tree.WellFormed)
    (h : Discovery.discover w (rootOf s root?) s.scriptExtension s.skipDirs = .ok scriptPaths) :
    ∃ scenePaths report,
      Discovery.discover w (rootOf s root?) s.sceneExtension s.skipDirs = .ok scenePaths ∧
      check w s root? = .ok report ∧
      Accounts w s (rootOf s root?) scriptPaths scenePaths report := by
  obtain ⟨scenePaths, hscenes⟩ := Discovery.discover_ok_of_ok s.sceneExtension h
  obtain ⟨scripts, hbuilt, hscripts⟩ := scripts_accounted hw s.resourceStart h
  obtain ⟨scenes, hlinked, haccounted⟩ := scenes_accounted hw scripts.models hscenes
  exact ⟨scenePaths, _, hscenes, check_of_built h hscenes hbuilt hlinked, rfl,
    ⟨_, _, rfl, hscripts, haccounted⟩, rfl, rfl⟩

/-- A check has no outcome exactly when the project cannot be walked, and then for what ended the
discovery; the walk for the scenes never fails where the one for the scripts succeeded. A check
that has an outcome accounts for every script and every scene. -/
theorem check_accounts (hw : w.tree.WellFormed) (s : Settings) (root? : Option FilePath) :
    ((∃ fault, check w s root? = .error fault) ↔
      Discovery.Unwalkable w (rootOf s root?) s.skipDirs) ∧
    (∀ fault, check w s root? = .error fault ↔
      ∃ e, fault = .discovery e ∧
        Discovery.discover w (rootOf s root?) s.scriptExtension s.skipDirs = .error e) ∧
    ∀ scriptPaths,
      Discovery.discover w (rootOf s root?) s.scriptExtension s.skipDirs = .ok scriptPaths →
      ∃ scenePaths report,
        Discovery.discover w (rootOf s root?) s.sceneExtension s.skipDirs = .ok scenePaths ∧
        check w s root? = .ok report ∧
        Accounts w s (rootOf s root?) scriptPaths scenePaths report := by
  have hfault : ∀ fault, check w s root? = .error fault ↔
      ∃ e, fault = .discovery e ∧
        Discovery.discover w (rootOf s root?) s.scriptExtension s.skipDirs = .error e := by
    intro fault
    cases hfound : Discovery.discover w (rootOf s root?) s.scriptExtension s.skipDirs with
    | error e => simp [check_of_discover_error hfound, eq_comm]
    | ok scriptPaths =>
        obtain ⟨_, report, _, hcheck, _⟩ := check_ok_accounts hw hfound
        simp [hcheck]
  refine ⟨?_, hfault, fun scriptPaths h => check_ok_accounts hw h⟩
  rw [← Discovery.discover_error_iff s.scriptExtension]
  simp [hfault]

/-- A link of which the system does not tell where it leads ends a check, though the root is a
directory and every directory may be listed. -/
theorem check_long_target :
    (Discovery.linkedWorld Discovery.longTarget).hasDirectory ⟨.root, ["game"]⟩ = .ok true ∧
    (Discovery.linkedWorld Discovery.longTarget).denied.list = [] ∧
    check (Discovery.linkedWorld Discovery.longTarget) (Settings.default ⟨.root, ["game"]⟩) none =
      .error (.discovery (.system ⟨.nameTooLong, "/game/x.txt"⟩)) := by
  obtain ⟨hslash, hlong⟩ := Discovery.long_target
  generalize Discovery.longTarget = target at hslash hlong ⊢
  exact ⟨rfl, rfl, check_of_discover_error
    (Discovery.discover_linked hslash hlong (by decide) _)⟩

/-- `sampleProject` has a script that declares two class names, one that breaks no rule, and a scene
without nodes. -/
def sampleProject : Tree := .directory
  [ ("Broken.gd", .file (Text.Utf8.encode "class_name A\nclass_name B\n")),
    ("Player.gd", .file (Text.Utf8.encode "class_name Player\nextends Node\n")),
    ("ui", .directory [("hud.tscn", .file [])]) ]

/-- `sampleWorld` holds the sample and nothing else. -/
def sampleWorld : World := ⟨.directory [("game", sampleProject)], [], [], ⟨[], [], []⟩, .usual⟩

/-- A file system can hold the sample. -/
theorem sample_world_well_formed : sampleWorld.tree.WellFormed := by
  have hui : Tree.WellFormed (.directory [("hud.tscn", .file [])]) :=
    .directory _ (by decide) (by decide) (by simpa using .file [])
  have hproject : sampleProject.WellFormed := by
    refine .directory _ (by decide) (by decide) ?_
    simp only [List.forall_mem_cons]
    exact ⟨.file _, .file _, hui, by simp⟩
  exact .directory _ (by decide) (by decide) (by simpa using hproject)

/-- The sample has two scripts, and a check of it accounts for both and for its scene. -/
theorem check_accounts_sample :
    sampleWorld.tree.WellFormed ∧
    Discovery.discover sampleWorld ⟨.root, ["game"]⟩ "gd" [".godot", "addons"] =
      .ok [⟨.root, ["game", "Broken.gd"]⟩, ⟨.root, ["game", "Player.gd"]⟩] ∧
    ∃ scenePaths report,
      Discovery.discover sampleWorld ⟨.root, ["game"]⟩ "tscn" [".godot", "addons"] =
        .ok scenePaths ∧
      check sampleWorld (Settings.default ⟨.root, ["game"]⟩) none = .ok report ∧
      Accounts sampleWorld (Settings.default ⟨.root, ["game"]⟩) ⟨.root, ["game"]⟩
        [⟨.root, ["game", "Broken.gd"]⟩, ⟨.root, ["game", "Player.gd"]⟩] scenePaths report := by
  have hhas : sampleWorld.has ⟨.root, ["game"]⟩ = .ok true := rfl
  have hfind : sampleWorld.find ⟨.root, ["game"]⟩ = .ok (["game"], sampleProject) := rfl
  have hfound : Discovery.discover sampleWorld ⟨.root, ["game"]⟩ "gd" [".godot", "addons"] =
      .ok [⟨.root, ["game", "Broken.gd"]⟩, ⟨.root, ["game", "Player.gd"]⟩] := by
    rw [Discovery.discover_of_find hhas hfind rfl, sampleProject,
      Discovery.tour_directory (by decide), Discovery.sortByName,
      List.mergeSort_of_pairwise (by decide)]
    simp only [List.flatMap_cons, List.flatMap_nil]
    rw [Discovery.tour_directory (by decide), Discovery.sortByName, List.mergeSort_singleton]
    rfl
  exact ⟨sample_world_well_formed, hfound,
    (check_accounts sample_world_well_formed (Settings.default ⟨.root, ["game"]⟩) none).2.2 _
      hfound⟩

end SceneLint.Project
