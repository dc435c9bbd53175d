import SceneLint.Command.Run
import SceneLint.Proofs.Project.Accounting

/-!
# Stopping at the first breach of a file

A check that stops at the first breach of each file differs from one that reports all breaches in
nothing but the two lists of breaches, and there it keeps the first problem of every path.
`check_fail_fast` says so of two runs whose settings differ in this respect only. What the two runs
share is `gather`, everything before the report is written; that paths tell files apart is
`report_texts_nodup`.
-/

namespace SceneLint.Project

/-- `firstPerPath problems` keeps the first problem of every path. -/
def firstPerPath : List Problem → List Problem
  | [] => []
  | p :: problems => p :: (firstPerPath problems).filter fun q => q.path != p.path

/-- `Refines fast full` says that a report differs from a full one only in that it keeps the first
breach of every path, and that both lead to the same exit code. -/
structure Refines (fast full : Report) : Prop where
  root_eq : fast.root = full.root
  scripts_eq : fast.scripts = full.scripts
  scenes_eq : fast.scenes = full.scenes
  general_eq : fast.general = full.general
  script_eq : fast.script = firstPerPath full.script
  scene_eq : fast.scene = firstPerPath full.scene
  has_problems_eq : fast.summary.hasProblems = full.summary.hasProblems
  code_eq : ∀ o, Command.checkCode o fast.summary = Command.checkCode o full.summary

/-! ## The first problem of every path -/

/-- What is kept was there. -/
theorem mem_of_mem_first_per_path {p : Problem} {problems : List Problem}
    (h : p ∈ firstPerPath problems) : p ∈ problems := by
  induction problems with
  | nil => exact h
  | cons q problems ih =>
      rw [firstPerPath, List.mem_cons] at h
      rcases h with rfl | hrest
      · exact List.mem_cons_self
      · exact List.mem_cons_of_mem _ (ih (List.mem_filter.1 hrest).1)

/-- Something is kept unless there is nothing. -/
theorem length_first_per_path_pos (problems : List Problem) :
    0 < (firstPerPath problems).length ↔ 0 < problems.length := by
  cases problems <;> simp [firstPerPath]

/-- Of the problems of one path, followed by those of others, the first is kept. -/
theorem first_per_path_append {path : String} {block rest : List Problem}
    (hblock : ∀ p ∈ block, p.path = path) (hrest : ∀ p ∈ rest, p.path ≠ path) :
    firstPerPath (block ++ rest) = block.take 1 ++ firstPerPath rest := by
  induction block with
  | nil => rfl
  | cons p block ih =>
      rw [List.forall_mem_cons] at hblock
      obtain ⟨rfl, hblock⟩ := hblock
      -- The head is kept, and its filter drops the rest of the block and nothing else.
      have htaken : (block.take 1).filter (fun q => q.path != p.path) = [] := by
        rw [List.filter_eq_nil_iff]
        intro q hq
        simp [hblock q (List.mem_of_mem_take hq)]
      have hkept : (firstPerPath rest).filter (fun q => q.path != p.path) = firstPerPath rest := by
        rw [List.filter_eq_self]
        intro q hq
        simpa using hrest q (mem_of_mem_first_per_path hq)
      rw [List.cons_append, firstPerPath, ih hblock, List.filter_append, htaken, hkept]
      rfl

/-- Where every model has problems of its own path only, the first of every path is the first of
every model. -/
theorem first_per_path_flat_map {α : Type} {models : List α} {key : α → String}
    {problems : α → List Problem} (hkey : ∀ m ∈ models, ∀ p ∈ problems m, p.path = key m)
    (hnodup : (models.map key).Nodup) :
    firstPerPath (models.flatMap problems) = models.flatMap fun m => (problems m).take 1 := by
  induction models with
  | nil => rfl
  | cons m models ih =>
      rw [List.map_cons, List.nodup_cons] at hnodup
      rw [List.forall_mem_cons] at hkey
      rw [List.flatMap_cons, List.flatMap_cons, ← ih hkey.2 hnodup.2]
      apply first_per_path_append hkey.1
      intro p hp heq
      obtain ⟨other, hother, hmem⟩ := List.mem_flatMap.1 hp
      have hpath := hkey.2 other hother p hmem
      exact hnodup.1 (List.mem_map.2 ⟨other, hother, hpath.symm.trans heq⟩)

/-- The one breach of a script that is reported is the first of all. -/
theorem script_problems_true (s : Script) : s.problems true = (s.problems false).take 1 :=
  List.map_take

/-- The one breach of a scene that is reported is the first of all. -/
theorem scene_problems_true (allowed : List String) (s : Scene) :
    s.problems allowed true = (s.problems allowed false).take 1 :=
  List.map_take

/-! ## What two runs share -/

variable {w : World} {s : Settings} {root? : Option FilePath}

/-- `gather w s root?` is what is made of the files of a project, before any rule is checked. -/
def gather (w : World) (s : Settings) (root? : Option FilePath) :
    Except CheckFault (Built Script × Built Scene) := do
  let root := rootOf s root?
  let scriptPaths ← find w root s.scriptExtension s.skipDirs
  let scenePaths ← find w root s.sceneExtension s.skipDirs
  let scripts ← made (buildAll (buildScript w s.resourceStart root) scriptPaths)
  let scenes ← made (buildAll (buildScene w scripts.models) scenePaths)
  return (scripts, scenes)

/-- `reportOn root allowed failFast built` is the report on what was made of the files. -/
def reportOn (root : FilePath) (allowed : List String) (failFast : Bool)
    (built : Built Script × Built Scene) : Report where
  root := root
  scripts := built.1.models
  scenes := built.2.models
  general := built.1.problems ++ built.2.problems
  script := built.1.models.flatMap (Script.problems failFast)
  scene := built.2.models.flatMap (Scene.problems allowed failFast)

/-- A check gathers what is made of the files, and reports on it. -/
theorem check_eq_map_gather :
    check w s root? =
      (gather w s root?).map (reportOn (rootOf s root?) s.masterTypes s.failFast) := by
  simp only [check, gather, bind, Except.bind]
  repeat' split
  all_goals rfl

/-- Files that discovery finds are told apart by the texts of their paths. -/
theorem texts_nodup {α : Type} {models : List α} {pathOf : α → FilePath} {root : FilePath}
    {extension : String} {skip : List String} {paths : List FilePath} (hw : w.tree.WellFormed)
    (h : Discovery.discover w root extension skip = .ok paths)
    (horder : (models.map pathOf).Sublist paths) :
    (models.map fun m => (pathOf m).text).Nodup := by
  have hnodup := horder.nodup (Discovery.discover_nodup hw h)
  have htexts : ((models.map pathOf).map FilePath.text).Nodup := by
    apply hnodup.map_on
    intro path hpath other hother heq
    exact FilePath.text_injective_of_below
      (Discovery.below_of_mem_discover hw h (horder.subset hpath))
      (Discovery.below_of_mem_discover hw h (horder.subset hother)) heq
  rwa [List.map_map] at htexts

/-- The scripts of a report are told apart by the texts of their paths, and so are the scenes. -/
theorem report_texts_nodup {report : Report} (hw : w.tree.WellFormed)
    (h : check w s root? = .ok report) :
    (report.scripts.map fun script => script.path.text).Nodup ∧
    (report.scenes.map fun scene => scene.path.text).Nodup := by
  cases hfound : Discovery.discover w (rootOf s root?) s.scriptExtension s.skipDirs with
  | error fault =>
      rw [check_of_discover_error hfound] at h
      cases h
  | ok scriptPaths =>
      obtain ⟨scenePaths, report', hscenes, hcheck, haccounts⟩ := check_ok_accounts hw hfound
      obtain rfl := Except.ok.inj (h.symm.trans hcheck)
      obtain ⟨_, _, _, hscript, hscene⟩ := haccounts.general_eq
      exact ⟨texts_nodup hw hfound hscript.order, texts_nodup hw hscenes hscene.order⟩

/-! ## Two runs -/

/-- Reports with the same general problems, of which one keeps the first breach of every path, have
a problem or have none alike. -/
theorem has_problems_of_first_per_path {fast full : Report}
    (hscript : fast.script = firstPerPath full.script)
    (hscene : fast.scene = firstPerPath full.scene) (hgeneral : fast.general = full.general) :
    fast.summary.hasProblems = full.summary.hasProblems := by
  have hscripts := length_first_per_path_pos full.script
  have hscenes := length_first_per_path_pos full.scene
  have htotal : 0 < fast.summary.total ↔ 0 < full.summary.total := by
    simp only [Summary.total, Report.summary, hgeneral, hscript, hscene]
    omega
  exact decide_eq_decide.2 htotal

/-- The report that keeps the first breach of every file refines the one that has all. -/
theorem report_on_refines (root : FilePath) (allowed : List String)
    {built : Built Script × Built Scene}
    (hscripts : (built.1.models.map fun script => script.path.text).Nodup)
    (hscenes : (built.2.models.map fun scene => scene.path.text).Nodup) :
    Refines (reportOn root allowed true built) (reportOn root allowed false built) := by
  have hscript : (reportOn root allowed true built).script =
      firstPerPath (reportOn root allowed false built).script := by
    have hkey : ∀ script ∈ built.1.models, ∀ p ∈ script.problems false,
        p.path = script.path.text := by
      intro script _ p hp
      obtain ⟨b, _, rfl⟩ := List.mem_map.1 hp
      rfl
    simp only [reportOn, first_per_path_flat_map hkey hscripts, ← script_problems_true]
  have hscene : (reportOn root allowed true built).scene =
      firstPerPath (reportOn root allowed false built).scene := by
    have hkey : ∀ scene ∈ built.2.models, ∀ p ∈ scene.problems allowed false,
        p.path = scene.path.text := by
      intro scene _ p hp
      obtain ⟨b, _, rfl⟩ := List.mem_map.1 hp
      rfl
    simp only [reportOn, first_per_path_flat_map hkey hscenes, ← scene_problems_true]
  have hproblems := has_problems_of_first_per_path hscript hscene rfl
  refine ⟨rfl, rfl, rfl, rfl, hscript, hscene, hproblems, ?_⟩
  intro o
  rw [Command.checkCode, Command.checkCode, hproblems]

/-- Two checks whose settings differ only in whether they stop at the first breach of a file fail
alike, and the report of the one refines the report of the other. -/
theorem check_fail_fast (hw : w.tree.WellFormed) (s : Settings) (root? : Option FilePath) :
    (∀ fault, check w { s with failFast := true } root? = .error fault ↔
      check w { s with failFast := false } root? = .error fault) ∧
    ∀ full, check w { s with failFast := false } root? = .ok full →
      ∃ fast, check w { s with failFast := true } root? = .ok fast ∧ Refines fast full := by
  -- Nothing before the report reads the setting in which the two runs differ.
  have hfast : check w { s with failFast := true } root? =
      (gather w s root?).map (reportOn (rootOf s root?) s.masterTypes true) :=
    check_eq_map_gather
  have hfull : check w { s with failFast := false } root? =
      (gather w s root?).map (reportOn (rootOf s root?) s.masterTypes false) :=
    check_eq_map_gather
  cases hgather : gather w s root? with
  | error e =>
      rw [hgather] at hfast hfull
      refine ⟨fun fault => by rw [hfast, hfull]; rfl, ?_⟩
      intro full hok
      rw [hfull] at hok
      cases hok
  | ok built =>
      rw [hgather] at hfast hfull
      refine ⟨fun fault => ?_, ?_⟩
      · rw [hfast, hfull]
        simp [Except.map]
      · intro full hok
        obtain ⟨hscripts, hscenes⟩ := report_texts_nodup hw hok
        obtain rfl := Except.ok.inj (hfull.symm.trans hok)
        exact ⟨_, hfast, report_on_refines _ _ hscripts hscenes⟩

/-- `untidyWorld` holds a project with one script, which is empty. -/
def untidyWorld : World :=
  ⟨.directory [("game", .directory [("box.gd", .file [])])], [], [], ⟨[], [], []⟩, .usual⟩

/-- `untidyScript` is the script of `untidyWorld`. -/
def untidyScript : Script :=
  ⟨"box.gd", "box", ⟨.root, ["game", "box.gd"]⟩, "res://box.gd", "", .behaviour, none, none⟩

/-- A file system can hold the project with an empty script. -/
theorem untidy_world_well_formed : untidyWorld.tree.WellFormed := by
  have hproject : Tree.WellFormed (.directory [("box.gd", .file [])]) :=
    .directory _ (by decide) (by decide) (by simpa using .file [])
  exact .directory _ (by decide) (by decide) (by simpa using hproject)

/-- The tour of the project with an empty script passes its root and the script. -/
theorem discover_untidy (extension : String) :
    Discovery.discover untidyWorld ⟨.root, ["game"]⟩ extension [".godot", "addons"] =
      Discovery.survey untidyWorld ("." ++ extension) [".godot", "addons"] 901
        [ (⟨.root, ["game"]⟩, .directory [("box.gd", .file [])]),
          (⟨.root, ["game", "box.gd"]⟩, .file []) ] := by
  have hfind : untidyWorld.find ⟨.root, ["game"]⟩ =
      .ok (["game"], .directory [("box.gd", .file [])]) := rfl
  have hhas : untidyWorld.has ⟨.root, ["game"]⟩ = .ok true := by decide +kernel
  rw [Discovery.discover_of_find hhas hfind rfl, Discovery.tour_directory (by decide),
    Discovery.sortByName, List.mergeSort_singleton]
  rfl

/-- The empty script breaks three rules, of which a check that stops at the first reports one. -/
theorem check_fail_fast_untidy :
    untidyWorld.tree.WellFormed ∧
    ∃ full fast,
      check untidyWorld { Settings.default ⟨.root, ["game"]⟩ with failFast := false } none =
        .ok full ∧
      check untidyWorld { Settings.default ⟨.root, ["game"]⟩ with failFast := true } none =
        .ok fast ∧
      Refines fast full ∧
      full.script.map Problem.code = ["naming", "class-name", "extends"] ∧
      fast.script.map Problem.code = ["naming"] := by
  have hbuilt : buildAll (buildScript untidyWorld "res://" ⟨.root, ["game"]⟩)
      [⟨.root, ["game", "box.gd"]⟩] = .ok ⟨[untidyScript], []⟩ := rfl
  have hscripts : Discovery.discover untidyWorld ⟨.root, ["game"]⟩ "gd" [".godot", "addons"] =
      .ok [⟨.root, ["game", "box.gd"]⟩] := discover_untidy "gd"
  have hscenes : Discovery.discover untidyWorld ⟨.root, ["game"]⟩ "tscn" [".godot", "addons"] =
      .ok [] := discover_untidy "tscn"
  have hfull :
      check untidyWorld { Settings.default ⟨.root, ["game"]⟩ with failFast := false } none =
        .ok (reportOn ⟨.root, ["game"]⟩ ["Node", "Node2D", "Node3D"] false
          (⟨[untidyScript], []⟩, ⟨[], []⟩)) :=
    check_of_built hscripts hscenes hbuilt rfl
  obtain ⟨fast, hfast, hrefines⟩ := (check_fail_fast untidy_world_well_formed
    (Settings.default ⟨.root, ["game"]⟩) none).2 _ hfull
  refine ⟨untidy_world_well_formed, _, fast, hfull, hfast, hrefines, rfl, ?_⟩
  rw [hrefines.script_eq]
  rfl

end SceneLint.Project
