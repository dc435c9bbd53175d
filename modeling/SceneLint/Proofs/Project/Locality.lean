import SceneLint.Proofs.Project.Discovered
import SceneLint.Proofs.Project.FailFast
import SceneLint.Proofs.Project.Report
import SceneLint.Proofs.Scene.Linking
import SceneLint.Proofs.World.Contents

/-!
# What editing one script can change

`ScriptEdit` says that two worlds differ in nothing but the content of one script to which no link
leads. `check_edit_local` compares the reports on them. Discovery does not look at content
(`discover_congr`), so both runs build the same files, and all but the edited one alike. Scenes are
linked through an index of all scripts, so the edit can reach the scenes that name the script; but a
scene sees nothing of a script that its path does not tell (`build_script_seen`), so it notices only
whether the script was built.
-/

namespace SceneLint

/-! ## Discovery -/

namespace World.DifferAt

variable {place : List String} {w w' : World}

/-- A real directory lies at a path in both worlds or in neither. -/
theorem is_real_directory_iff (h : DifferAt place w w') (p : FilePath) :
    w'.IsRealDirectory p ↔ w.IsRealDirectory p := by
  have hentry := h.find_entry_alike p
  unfold IsRealDirectory
  generalize w.findEntry p = found, w'.findEntry p = found' at hentry
  cases hentry with
  | refused fault => simp
  | @found here t t' hshape => cases t <;> cases t' <;> simp_all [Tree.shape]

/-- A path has an entry in both worlds or in neither. -/
theorem entry_iff (h : DifferAt place w w') (p : FilePath) :
    (∃ here t, w'.findEntry p = .ok (here, t)) ↔ ∃ here t, w.findEntry p = .ok (here, t) := by
  have hentry := h.find_entry_alike p
  generalize w.findEntry p = found, w'.findEntry p = found' at hentry
  cases hentry with
  | found here hshape => simp
  | refused fault => simp

end World.DifferAt

namespace Discovery

variable {place skip names : List String} {w w' : World} {root : FilePath}

/-- A directory that a walk enters in one world is entered in the other. -/
theorem IsEntered.of_differ (h : w.DifferAt place w') (hentered : IsEntered w skip root names) :
    IsEntered w' skip root names := by
  refine ⟨hentered.root_kept, fun front name hlead => ?_⟩
  rw [h.is_real_directory_iff]
  exact hentered.way_kept front name hlead

/-- A walk enters the same directories in both worlds. -/
theorem entered_congr (h : w.DifferAt place w') :
    IsEntered w' skip root names ↔ IsEntered w skip root names :=
  ⟨.of_differ h.symm, .of_differ h⟩

/-- A walk meets the same entries in both worlds. -/
theorem met_congr (h : w.DifferAt place w') :
    IsMet w' skip root names ↔ IsMet w skip root names := by
  simp only [IsMet, entered_congr h, h.entry_iff]

/-- A walk finds the same files in both worlds. -/
theorem match_congr (h : w.DifferAt place w') {suffix : String} :
    IsMatch w' suffix skip root names ↔ IsMatch w suffix skip root names := by
  simp only [IsMatch, met_congr h, h.has_directory_eq]

/-- The system tells as much of an entry in both worlds. -/
theorem untold?_congr (h : w.DifferAt place w') (p : FilePath) : untold? w' p = untold? w p := by
  rw [untold?, untold?, h.has_link_eq, h.has_directory_eq]

/-- What stops a walk at an entry of one world stops it there in the other. -/
theorem Stops.of_differ (h : w.DifferAt place w') {halt : Halt}
    (hstops : Stops w root skip names halt) : Stops w' root skip names halt := by
  cases hstops with
  | untold hmet huntold =>
      exact .untold ((met_congr h).2 hmet) ((untold?_congr h _).trans huntold)
  | tooDeep hvisited htold hdeep =>
      rw [← h.host] at hdeep ⊢
      rw [← met_congr h, ← h.is_real_directory_iff] at hvisited
      exact .tooDeep hvisited ((untold?_congr h _).trans htold) hdeep
  | unlisted hentered htold hdeep hlist =>
      rw [← h.host] at hdeep
      rw [← h.denied] at hlist
      exact .unlisted (hentered.of_differ h) ((untold?_congr h _).trans htold) hdeep hlist

/-- What stops a walk in one world stops it in the other. -/
theorem Obstacle.of_differ (h : w.DifferAt place w') {halt : Halt}
    (hobstacle : Obstacle w root skip halt) : Obstacle w' root skip halt := by
  cases hobstacle with
  | untold huntold => exact .untold ((h.has_eq root).trans huntold)
  | noRoot hno => exact .noRoot ((h.has_eq root).trans hno)
  | rootNotDirectory hhas hno =>
      exact .rootNotDirectory ((h.has_eq root).trans hhas) ((h.has_directory_eq root).trans hno)
  | met names hyes hstops hfirst =>
      exact .met names ((h.has_directory_eq root).trans hyes) (hstops.of_differ h)
        fun other halt' hother => hfirst other halt' (hother.of_differ h.symm)

/-- Discovery does not look at the content of files. -/
theorem discover_congr (hw : w.tree.WellFormed) (hw' : w'.tree.WellFormed)
    (h : w.DifferAt place w') (root : FilePath) (extension : String) (skip : List String) :
    discover w' root extension skip = discover w root extension skip := by
  cases hfound : discover w root extension skip with
  | error halt =>
      rw [discover_error_iff_obstacle hw] at hfound
      exact (discover_error_iff_obstacle hw' extension halt).2 (hfound.of_differ h)
  | ok paths =>
      cases hfound' : discover w' root extension skip with
      | error halt =>
          rw [discover_error_iff_obstacle hw'] at hfound'
          have hobstacle := hfound'.of_differ h.symm
          have herror := (discover_error_iff_obstacle hw extension halt).2 hobstacle
          rw [hfound] at herror
          cases herror
      | ok paths' =>
          obtain ⟨ways, rfl, hways, horder⟩ := discover_ok_matches hw hfound
          obtain ⟨ways', rfl, hways', horder'⟩ := discover_ok_matches hw' hfound'
          -- A list in strict order is known by its members.
          have hsame : ways' = ways := horder'.eq_of_mem_iff horder fun names => by
            rw [hways, hways', match_congr h]
          rw [hsame]

end Discovery

namespace Project

/-! ## What is built -/

/-- `ScriptEdit s root home names w w'` says that `w'` differs from `w` in nothing but the content
of one script: of the file at `names` below the root, which lies at `home`. No link leads to it. -/
structure ScriptEdit (s : Settings) (root : FilePath) (home names : List String) (w w' : World) :
    Prop where
  root_place : ∃ t, w.find root = .ok (home, t)
  is_script : (root.descend names).suffix = "." ++ s.scriptExtension
  differ : w.DifferAt (home ++ names) w'
  no_link : ∀ p here target t, w.findEntry p = .ok (here, .link target) →
    w.find p ≠ .ok (home ++ names, t)

variable {w w' : World} {s : Settings} {root q : FilePath} {home names : List String}
  {paths : List FilePath} {extension : String} {skip : List String}

namespace ScriptEdit

/-- No other file that discovery finds lies where the edited one does. -/
theorem elsewhere (hedit : ScriptEdit s root home names w w') (hw : w.tree.WellFormed)
    (hfound : Discovery.discover w root extension skip = .ok paths) (hq : q ∈ paths)
    (hne : q ≠ root.descend names) (t : Tree) : w.find q ≠ .ok (home ++ names, t) := by
  intro hfind
  obtain ⟨-, place, top, hroot, hdirectory, -⟩ := Discovery.survey_of_discover hfound
  obtain ⟨_, hroot'⟩ := hedit.root_place
  obtain ⟨rfl, rfl⟩ := Prod.mk.inj (Except.ok.inj (hroot.symm.trans hroot'))
  have htop := World.find_well_formed hw hroot
  obtain ⟨ways, rfl, hways, _⟩ := Discovery.discover_ok_matches hw hfound
  obtain ⟨other, hother, rfl⟩ := List.mem_map.1 hq
  have hmatch := (hways other).1 hother
  obtain ⟨-, u, hreach⟩ := (Discovery.met_iff htop hroot hdirectory).1 hmatch.1
  obtain ⟨hnames, hlookup⟩ := hreach.lookup htop
  -- The file itself lies at its own names; a link to it would be one that leads there.
  cases hlink : u.isLink with
  | false =>
      have hplace := (World.find_descend hroot hnames hlookup hlink).symm.trans hfind
      have hsame := List.append_cancel_left (Prod.mk.inj (Except.ok.inj hplace)).1
      exact hne (by rw [hsame])
  | true =>
      obtain ⟨target, rfl⟩ : ∃ target, u = .link target := by
        cases u <;> simp_all [Tree.isLink]
      obtain ⟨front, last, rfl, -⟩ := hmatch.1
      exact hedit.no_link _ _ _ _
        (World.find_entry_descend hroot (by simp) hnames hlookup) hfind

/-- Any other file that discovery finds has the same text in both worlds. -/
theorem read_eq (hedit : ScriptEdit s root home names w w') (hw : w.tree.WellFormed)
    (hfound : Discovery.discover w root extension skip = .ok paths) (hq : q ∈ paths)
    (hne : q ≠ root.descend names) : read w' q = read w q := by
  unfold read
  rw [hedit.differ.read_text_eq (hedit.elsewhere hw hfound hq hne)]

/-- The edited file is no scene, because it has another extension. -/
theorem ne_of_mem_scenes (hedit : ScriptEdit s root home names w w') (hw : w.tree.WellFormed)
    (hextensions : s.scriptExtension ≠ s.sceneExtension)
    (hfound : Discovery.discover w root s.sceneExtension skip = .ok paths) (hq : q ∈ paths) :
    q ≠ root.descend names := by
  rintro rfl
  obtain ⟨ways, rfl, hways, _⟩ := Discovery.discover_ok_matches hw hfound
  obtain ⟨other, hother, heq⟩ := List.mem_map.1 hq
  obtain ⟨-, -, hsuffix⟩ := (hways other).1 hother
  rw [heq, hedit.is_script] at hsuffix
  exact hextensions ((String.append_right_inj _).1 hsuffix)

end ScriptEdit

/-- Scenes see nothing of a script that its path does not tell. -/
theorem build_script_seen {start : String} {script script' : Script}
    (h : buildScript w start root q = .ok script)
    (h' : buildScript w' start root q = .ok script') : script'.seen = script.seen := by
  obtain ⟨_, resource, _, hresource, hbuild⟩ := build_script_eq_ok_iff.1 h
  obtain ⟨_, resource', _, hresource', hbuild'⟩ := build_script_eq_ok_iff.1 h'
  obtain ⟨_, _, _, _, rfl⟩ := Script.build_eq_ok_iff.1 hbuild
  obtain ⟨_, _, _, _, rfl⟩ := Script.build_eq_ok_iff.1 hbuild'
  obtain rfl := Except.ok.inj (hresource.symm.trans hresource')
  rfl

/-- A scene is built without any script and linked afterwards. -/
theorem build_scene_eq_map_link (scripts : List Script) :
    buildScene w scripts q = (buildScene w [] q).map (Scene.link scripts) := by
  unfold buildScene
  cases read w q with
  | error fault => rfl
  | ok contents =>
      dsimp only
      rw [Scene.build_eq_map_link scripts]
      cases Scene.build [] q contents <;> rfl

/-- What is done with a model has no part in the problem of a file of which none can be made. -/
theorem problem?_map {α β : Type} (build : FilePath → Except FileFault α) (f : α → β) :
    (problem? fun path => (build path).map f) = problem? build := by
  funext path
  unfold problem?
  dsimp only
  cases build path with
  | error fault => cases fault <;> rfl
  | ok model => rfl

/-! ## Two reports -/

/-- `Unaffected s root f report report'` says what two reports have in common where only the content
of the script at `f` may have changed. -/
structure Unaffected (s : Settings) (root f : FilePath) (report report' : Report) : Prop where
  script_eq : report'.script.filter (·.path != f.text) = report.script.filter (·.path != f.text)
  general_eq :
    report'.general.filter (·.path != f.text) = report.general.filter (·.path != f.text)
  scenes_eq :
    (report'.scenes.map fun scene =>
      (scene.path, scene.contents, scene.masterType, scene.hasChildren)) =
    report.scenes.map fun scene =>
      (scene.path, scene.contents, scene.masterType, scene.hasChildren)
  scene_eq : ∃ resource, Resource.ofFile s.resourceStart f root = .ok resource ∧
    ∀ scene ∈ report.scenes,
      ¬ Scene.ResourceOf (Text.lines scene.contents.toList) (some resource) →
      report'.scene.filter (·.path == scene.path.text) =
        report.scene.filter (·.path == scene.path.text)
  built_eq : (∀ p ∈ report.general, p.path ≠ f.text) → (∀ p ∈ report'.general, p.path ≠ f.text) →
    (report'.scenes.map fun scene => scene.script.map Script.resource) =
      (report.scenes.map fun scene => scene.script.map Script.resource) ∧
    report'.scene = report.scene

/-- Building all files gives lists that agree on what is kept where they agree on it for each. -/
theorem filter_flat_map_congr {α : Type} {build build' : FilePath → Option α}
    {problems : α → List Problem} {keep : Problem → Bool}
    (h : ∀ path ∈ paths, ((build' path).toList.flatMap problems).filter keep =
      ((build path).toList.flatMap problems).filter keep) :
    ((paths.filterMap build').flatMap problems).filter keep =
      ((paths.filterMap build).flatMap problems).filter keep := by
  rw [List.filterMap_eq_flatMap_toList, List.filterMap_eq_flatMap_toList, List.flatMap_assoc,
    List.flatMap_assoc, List.filter_flatMap, List.filter_flatMap]
  exact List.flatMap_congr h

/-- The first of the models with a property is the same in lists that differ only in models without
it. -/
theorem find?_filter_map_congr {α : Type} {build build' : FilePath → Option α} {p : α → Bool}
    (h : ∀ path ∈ paths, build' path = build path ∨
      (build' path).any p = false ∧ (build path).any p = false) :
    (paths.filterMap build').find? p = (paths.filterMap build).find? p := by
  induction paths with
  | nil => rfl
  | cons path paths ih =>
      rw [List.forall_mem_cons] at h
      obtain ⟨hhere, hrest⟩ := h
      have hfirst : ∀ build : FilePath → Option α, ((path :: paths).filterMap build).find? p =
          if (build path).any p then build path else (paths.filterMap build).find? p := by
        intro build
        cases hmodel : build path with
        | none => simp [hmodel]
        | some model =>
            rw [List.filterMap_cons_some hmodel, List.find?_cons]
            cases hp : p model <;> simp [hp]
      rw [hfirst, hfirst, ih hrest]
      rcases hhere with heq | ⟨hno', hno⟩
      · rw [heq]
      · rw [hno', hno]
        rfl

section TwoRuns

variable {report report' : Report} {scriptPaths scenePaths : List FilePath}

/-- The scenes of a report are those built without any script, linked to its scripts. -/
theorem Composed.scenes_eq_link (h : Composed w s root scriptPaths scenePaths report) :
    report.scenes = (scenePaths.filterMap fun path => (buildScene w [] path).toOption).map
      (Scene.link report.scripts) := by
  rw [h.scenes_eq, List.map_filterMap]
  apply List.filterMap_congr
  intro path _
  rw [build_scene_eq_map_link]
  cases buildScene w [] path <;> rfl

/-- A script that is no general problem was built. -/
theorem Composed.script_built_of_no_problem (h : Composed w s root scriptPaths scenePaths report)
    (hw : w.tree.WellFormed) (hq : q ∈ scriptPaths)
    (hclear : ∀ p ∈ report.general, p.path ≠ q.text) :
    ∃ script, buildScript w s.resourceStart root q = .ok script := by
  cases hbuild : buildScript w s.resourceStart root q with
  | ok script => exact ⟨script, rfl⟩
  | error fault =>
      obtain ⟨e, rfl⟩ := build_script_contained s.resourceStart
        (Discovery.has_nul_of_mem_discover hw h.script_paths hq)
        (Discovery.below_of_mem_discover hw h.script_paths hq) fault hbuild
      have hproblem : problem? (buildScript w s.resourceStart root) q = some (e.problem q) :=
        problem?_eq_some_iff.2 ⟨e, hbuild, rfl⟩
      have hmem : e.problem q ∈ report.general := by
        rw [h.general_eq]
        exact List.mem_append_left _ (List.mem_filterMap.2 ⟨q, hq, hproblem⟩)
      exact absurd rfl (hclear _ hmem)

variable (hw : w.tree.WellFormed) (hedit : ScriptEdit s root home names w w')
  (h : Composed w s root scriptPaths scenePaths report)

include hw hedit h

/-- Scripts other than the edited one are built alike. -/
theorem build_script_eq (hq : q ∈ scriptPaths) (hne : q ≠ root.descend names) :
    buildScript w' s.resourceStart root q = buildScript w s.resourceStart root q := by
  unfold buildScript
  rw [hedit.read_eq hw h.script_paths hq hne]

/-- The general problems of other scripts stay as they are. -/
theorem script_faults_eq :
    (scriptPaths.filterMap (problem? (buildScript w' s.resourceStart root))).filter
        (·.path != (root.descend names).text) =
      (scriptPaths.filterMap (problem? (buildScript w s.resourceStart root))).filter
        (·.path != (root.descend names).text) := by
  rw [List.filter_filterMap, List.filter_filterMap]
  apply List.filterMap_congr
  intro path hpath
  by_cases hedited : path = root.descend names
  · have hnone : ∀ world, (problem? (buildScript world s.resourceStart root) path).filter
        (·.path != (root.descend names).text) = none := by
      intro world
      rw [Option.filter_eq_none_iff]
      intro p hp
      obtain ⟨fault, _, rfl⟩ := problem?_eq_some_iff.1 hp
      simp [BuildFault.problem, hedited]
    rw [hnone, hnone]
  · unfold problem?
    rw [build_script_eq hw hedit h hpath hedited]

/-- The problems of other scripts stay as they are. -/
theorem script_problems_eq (h' : Composed w' s root scriptPaths scenePaths report') :
    report'.script.filter (·.path != (root.descend names).text) =
      report.script.filter (·.path != (root.descend names).text) := by
  rw [h.script_eq, h'.script_eq, h.scripts_eq, h'.scripts_eq]
  apply filter_flat_map_congr
  intro path hpath
  by_cases hedited : path = root.descend names
  · -- All problems of the edited script are told under its path, so none is kept.
    have hnone : ∀ world, (((buildScript world s.resourceStart root path).toOption.toList.flatMap
        (Script.problems s.failFast)).filter (·.path != (root.descend names).text)) = [] := by
      intro world
      cases hbuild : buildScript world s.resourceStart root path with
      | error fault => rfl
      | ok script =>
          have hscript := build_script_path hbuild
          simp [Except.toOption, Script.problems, hscript, hedited]
    rw [hnone, hnone]
  · rw [build_script_eq hw hedit h hpath hedited]

/-- A resource path other than that of the edited script is linked to the same script. -/
theorem linked?_eq_of_ne (h' : Composed w' s root scriptPaths scenePaths report')
    {resource : String}
    (hresource : Resource.ofFile s.resourceStart (root.descend names) root = .ok resource)
    {named : Option String} (hnamed : named ≠ some resource) :
    Scene.linked? report'.scripts named = Scene.linked? report.scripts named := by
  rw [Scene.linked?_eq, Scene.linked?_eq]
  cases named with
  | none => rfl
  | some other =>
      rw [Option.bind_some, Option.bind_some, h.scripts_eq, h'.scripts_eq]
      apply find?_filter_map_congr
      intro path hpath
      by_cases hedited : path = root.descend names
      · -- The edited script goes under its own resource path, which is not the one looked for.
        right
        have hno : ∀ world, (buildScript world s.resourceStart root path).toOption.any
            (fun script => script.resource == other) = false := by
          intro world
          cases hbuild : buildScript world s.resourceStart root path with
          | error fault => rfl
          | ok script =>
              obtain ⟨_, resource', _, hresource', hbuild⟩ := build_script_eq_ok_iff.1 hbuild
              obtain ⟨_, _, _, _, rfl⟩ := Script.build_eq_ok_iff.1 hbuild
              rw [hedited, hresource] at hresource'
              cases hresource'
              simpa [Except.toOption] using fun heq => hnamed (congrArg some heq.symm)
        exact ⟨hno w', hno w⟩
      · exact .inl (by rw [build_script_eq hw hedit h hpath hedited])

/-- Scenes see the same of the scripts if the edited one was built before and after. -/
theorem scripts_seen_eq (hw' : w'.tree.WellFormed)
    (h' : Composed w' s root scriptPaths scenePaths report')
    (hclear : ∀ p ∈ report.general, p.path ≠ (root.descend names).text)
    (hclear' : ∀ p ∈ report'.general, p.path ≠ (root.descend names).text) :
    report'.scripts.map Script.seen = report.scripts.map Script.seen := by
  rw [h.scripts_eq, h'.scripts_eq, List.map_filterMap, List.map_filterMap]
  apply List.filterMap_congr
  intro path hpath
  by_cases hedited : path = root.descend names
  · subst hedited
    obtain ⟨script, hbuild⟩ := h.script_built_of_no_problem hw hpath hclear
    obtain ⟨script', hbuild'⟩ := h'.script_built_of_no_problem hw' hpath hclear'
    simp [hbuild, hbuild', Except.toOption, build_script_seen hbuild hbuild']
  · rw [build_script_eq hw hedit h hpath hedited]

variable (hextensions : s.scriptExtension ≠ s.sceneExtension)

include hextensions

/-- Scenes are built alike from the same scripts. -/
theorem build_scene_eq (hq : q ∈ scenePaths) (scripts : List Script) :
    buildScene w' scripts q = buildScene w scripts q := by
  unfold buildScene
  rw [hedit.read_eq hw h.scene_paths hq (hedit.ne_of_mem_scenes hw hextensions h.scene_paths hq)]

/-- The general problems of scenes stay as they are, whatever scripts there are. -/
theorem scene_faults_eq (scripts scripts' : List Script) :
    scenePaths.filterMap (problem? (buildScene w' scripts')) =
      scenePaths.filterMap (problem? (buildScene w scripts)) := by
  have halone : ∀ world list,
      problem? (buildScene world list) = problem? (buildScene world []) := by
    intro world list
    rw [← problem?_map (buildScene world []) (Scene.link list)]
    congr 1
    funext path
    exact build_scene_eq_map_link list
  rw [halone w', halone w]
  apply List.filterMap_congr
  intro path hpath
  unfold problem?
  rw [build_scene_eq hw hedit h hextensions hpath]

/-- Both reports have the same scenes, each linked to its own scripts. -/
theorem exists_scenes_link (h' : Composed w' s root scriptPaths scenePaths report') :
    ∃ alone : List Scene, report.scenes = alone.map (Scene.link report.scripts) ∧
      report'.scenes = alone.map (Scene.link report'.scripts) := by
  refine ⟨_, h.scenes_eq_link, ?_⟩
  rw [h'.scenes_eq_link]
  congr 1
  apply List.filterMap_congr
  intro path hpath
  rw [build_scene_eq hw hedit h hextensions hpath]

/-- The problems of a scene that does not name the edited script stay as they are. -/
theorem scene_problems_eq_of_ne (h' : Composed w' s root scriptPaths scenePaths report')
    {resource : String}
    (hresource : Resource.ofFile s.resourceStart (root.descend names) root = .ok resource)
    (htexts : (report.scenes.map fun scene => scene.path.text).Nodup) {scene : Scene}
    (hscene : scene ∈ report.scenes)
    (hother : ¬ Scene.ResourceOf (Text.lines scene.contents.toList) (some resource)) :
    report'.scene.filter (·.path == scene.path.text) =
      report.scene.filter (·.path == scene.path.text) := by
  obtain ⟨alone, hscenes, hscenes'⟩ := exists_scenes_link hw hedit h hextensions h'
  rw [hscenes] at htexts hscene
  obtain ⟨own, hown, rfl⟩ := List.mem_map.1 hscene
  rw [h.scene_eq, h'.scene_eq, hscenes, hscenes', List.flatMap_map, List.flatMap_map,
    List.filter_flatMap, List.filter_flatMap]
  apply List.flatMap_congr
  intro scene hmem
  by_cases hpath : scene.path.text = own.path.text
  · -- Only the scene itself is told under its path, and it is linked to the same script.
    rw [List.map_map] at htexts
    obtain rfl : scene = own := List.inj_on_of_nodup_map htexts hmem hown hpath
    have hnamed : scene.resource? ≠ some resource :=
      fun hnamed => hother (Scene.resource?_eq_some_iff.1 hnamed)
    have hlink : scene.link report'.scripts = scene.link report.scripts := by
      simp only [Scene.link, linked?_eq_of_ne hw hedit h h' hresource hnamed]
    rw [hlink]
  · have hnone : ∀ scripts, ((scene.link scripts).problems s.masterTypes s.failFast).filter
        (·.path == own.path.text) = [] := by
      intro scripts
      simp [Scene.problems, hpath]
    simp only [Scene.path_link, hnone]

end TwoRuns

/-- Editing a script changes the problems of no other script and no other general problem. It
changes the problems of no scene that does not name the script, and where the script is built before
and after, nothing about scenes at all. -/
theorem check_edit_local {root? : Option FilePath} {report report' : Report}
    (hw : w.tree.WellFormed) (hw' : w'.tree.WellFormed)
    (hedit : ScriptEdit s (rootOf s root?) home names w w')
    (hextensions : s.scriptExtension ≠ s.sceneExtension)
    (hcheck : check w s root? = .ok report) (hcheck' : check w' s root? = .ok report') :
    Unaffected s (rootOf s root?) ((rootOf s root?).descend names) report report' := by
  obtain ⟨scriptPaths, scenePaths, h⟩ := composed_of_check hcheck
  obtain ⟨scriptPaths', scenePaths', h'⟩ := composed_of_check hcheck'
  have hdiscover := Discovery.discover_congr hw hw' hedit.differ (rootOf s root?)
  obtain rfl : scriptPaths' = scriptPaths :=
    Except.ok.inj (h'.script_paths.symm.trans ((hdiscover _ _).trans h.script_paths))
  obtain rfl : scenePaths' = scenePaths :=
    Except.ok.inj (h'.scene_paths.symm.trans ((hdiscover _ _).trans h.scene_paths))
  obtain ⟨alone, hscenes, hscenes'⟩ := exists_scenes_link hw hedit h hextensions h'
  refine ⟨script_problems_eq hw hedit h h', ?_, ?_, ?_, ?_⟩
  · rw [h.general_eq, h'.general_eq, List.filter_append, List.filter_append,
      script_faults_eq hw hedit h, scene_faults_eq hw hedit h hextensions]
  · rw [hscenes, hscenes', List.map_map, List.map_map]
    rfl
  · obtain ⟨resource, hresource⟩ : ∃ resource, Resource.ofFile s.resourceStart
        ((rootOf s root?).descend names) (rootOf s root?) = .ok resource := by
      simp [Resource.ofFile, FilePath.relativeTo, FilePath.descend, Except.map]
    exact ⟨resource, hresource, fun scene => scene_problems_eq_of_ne hw hedit h hextensions h'
      hresource (report_texts_nodup hw hcheck).2⟩
  · intro hclear hclear'
    have hseen := scripts_seen_eq hw hedit h hw' h' hclear hclear'
    rw [h.scene_eq, h'.scene_eq, hscenes, hscenes', List.map_map, List.map_map, List.flatMap_map,
      List.flatMap_map]
    constructor
    · apply List.map_congr_left
      intro scene _
      have hlinked := Scene.linked?_seen_congr hseen scene.resource?
      have hresources := congrArg (Option.map Prod.fst) hlinked
      rw [Option.map_map, Option.map_map] at hresources
      exact hresources
    · apply List.flatMap_congr
      intro scene _
      exact Scene.problems_link_congr hseen s.masterTypes s.failFast

/-! ## A project with one script and one scene -/

/-- `boxScene` is the text of a scene that names the script `Box.gd`. -/
def boxScene : String :=
  "[ext_resource type=\"Script\" path=\"res://Box.gd\"\n[node type=\"Node\"]"

/-- `boxProject content` holds a script with the given content, and a scene that names it. -/
def boxProject (content : List UInt8) : Tree := .directory
  [("Box.gd", .file content), ("box.tscn", .file (Text.Utf8.encode boxScene))]

/-- `boxWorld content` holds the project with one script and one scene, and nothing else. -/
def boxWorld (content : List UInt8) : World :=
  ⟨.directory [("game", boxProject content)], [], [], ⟨[], [], []⟩, .usual⟩

/-- A file system can hold the project with one script and one scene. -/
theorem box_world_well_formed (content : List UInt8) : (boxWorld content).tree.WellFormed := by
  have hproject : (boxProject content).WellFormed := by
    refine .directory _ (by simp) ?_ ?_
    · simp only [List.forall_mem_cons]
      exact ⟨by decide, by decide, by simp⟩
    · simp only [List.forall_mem_cons]
      exact ⟨.file _, .file _, by simp⟩
  have hgame : IsEntryName "game" := by decide
  exact .directory _ (by simp) (by simpa using hgame) (by simpa using hproject)

/-- A directory leads to no link if none of its entries does. -/
theorem lookup_ne_link {entries : List (String × Tree)} {target : String}
    (h : ∀ entry ∈ entries, ∀ place, entry.2.lookup place ≠ some (.link target))
    (place : List String) : (Tree.directory entries).lookup place ≠ some (.link target) := by
  cases place with
  | nil => simp [Tree.lookup]
  | cons name place =>
      cases hchild : Tree.child? name entries with
      | none => simp [Tree.lookup, hchild]
      | some below => simpa [Tree.lookup, hchild] using h _ (Tree.mem_of_child? hchild) place

/-- Nothing in the project with one script and one scene is a link. -/
theorem lookup_box_world_ne_link (content : List UInt8) (place : List String) (target : String) :
    (boxWorld content).tree.lookup place ≠ some (.link target) := by
  have hfile : ∀ octets place, (Tree.file octets).lookup place ≠ some (.link target) := by
    intro octets place
    cases place <;> simp [Tree.lookup]
  have hproject : ∀ place, (boxProject content).lookup place ≠ some (.link target) := by
    apply lookup_ne_link
    simp only [List.forall_mem_cons]
    exact ⟨hfile _, hfile _, by simp⟩
  exact lookup_ne_link (by simpa using hproject) place

/-- Giving the script of the project other content edits a script to which no link leads. -/
theorem script_edit_box (old new : List UInt8) :
    ScriptEdit (Settings.default ⟨.root, ["game"]⟩) ⟨.root, ["game"]⟩ ["game"] ["Box.gd"]
      (boxWorld old) (boxWorld new) where
  root_place := ⟨boxProject old, rfl⟩
  is_script := by decide +kernel
  differ := World.differ_at_put (w := boxWorld old) rfl new
  no_link := by
    intro p here target t hentry
    exact absurd (World.lookup_of_walk_links hentry) (lookup_box_world_ne_link old here target)

/-- Discovery finds the two files of the project by their suffixes. -/
theorem discover_box (content : List UInt8) (extension : String) :
    Discovery.discover (boxWorld content) ⟨.root, ["game"]⟩ extension [".godot", "addons"] =
      .ok ([⟨.root, ["game", "Box.gd"]⟩, ⟨.root, ["game", "box.tscn"]⟩].filter
        (·.suffix == "." ++ extension)) := by
  have hfind : (boxWorld content).find ⟨.root, ["game"]⟩ = .ok (["game"], boxProject content) := rfl
  have htour : Discovery.tour [".godot", "addons"] ⟨.root, ["game"]⟩ (boxProject content) =
      [ (⟨.root, ["game"]⟩, boxProject content), (⟨.root, ["game", "Box.gd"]⟩, .file content),
        (⟨.root, ["game", "box.tscn"]⟩, .file (Text.Utf8.encode boxScene)) ] := by
    rw [boxProject, Discovery.tour_directory (by decide), Discovery.sortByName,
      List.mergeSort_of_pairwise (by simp)]
    rfl
  have hhas : (boxWorld content).has ⟨.root, ["game"]⟩ = .ok true := rfl
  have hclear : (Discovery.tour [".godot", "addons"] ⟨.root, ["game"]⟩
      (boxProject content)).findSome? (Discovery.stop? (boxWorld content) [".godot", "addons"]
        ((FilePath.parts ⟨.root, ["game"]⟩).length + (boxWorld content).host.depths.walk)) =
      none := by
    rw [htour]
    rfl
  rw [Discovery.discover_of_find hhas hfind rfl, Discovery.survey, hclear, htour]
  simp [Discovery.isFound, boxProject, Tree.isDirectory, Tree.isLink, List.filter_cons,
    apply_ite (List.map Prod.fst)]

/-- `boxScript contents` is the script of the project when it has the given text. -/
def boxScript (contents : String) : Script :=
  ⟨"Box.gd", "Box", ⟨.root, ["game", "Box.gd"]⟩, "res://Box.gd", contents, .behaviour, none, none⟩

/-- `boxAlone` is the scene of the project before it is linked. -/
def boxAlone : Scene :=
  ⟨"box.tscn", "box", ⟨.root, ["game", "box.tscn"]⟩, boxScene, "Node", false, none⟩

/-- The scene of the project is built without any script. -/
theorem build_box_alone (content : List UInt8) :
    buildScene (boxWorld content) [] ⟨.root, ["game", "box.tscn"]⟩ = .ok boxAlone := by
  have hread : read (boxWorld []) ⟨.root, ["game", "box.tscn"]⟩ = .ok boxScene :=
    to_option_eq_some_iff.1 (by decide +kernel)
  have hread' : read (boxWorld content) ⟨.root, ["game", "box.tscn"]⟩ = .ok boxScene := hread
  have hbuild : Scene.build [] ⟨.root, ["game", "box.tscn"]⟩ boxScene = .ok boxAlone :=
    to_option_eq_some_iff.1 (by decide +kernel)
  exact build_scene_eq_ok_iff.2 ⟨boxScene, hread', hbuild⟩

/-- The scene of the project names its script. -/
theorem resource?_box_alone : boxAlone.resource? = some "res://Box.gd" := by
  decide +kernel

/-- The project has one script, and one scene that is linked to it. -/
theorem check_box {content : List UInt8} (contents : String)
    (hscript : buildScript (boxWorld content) "res://" ⟨.root, ["game"]⟩
      ⟨.root, ["game", "Box.gd"]⟩ = .ok (boxScript contents)) :
    check (boxWorld content) (Settings.default ⟨.root, ["game"]⟩) none =
      .ok (reportOn ⟨.root, ["game"]⟩ ["Node", "Node2D", "Node3D"] true
        (⟨[boxScript contents], []⟩,
          ⟨[{ boxAlone with script := some (boxScript contents) }], []⟩)) := by
  have hscene : buildScene (boxWorld content) [boxScript contents]
      ⟨.root, ["game", "box.tscn"]⟩ =
        .ok { boxAlone with script := some (boxScript contents) } := by
    rw [build_scene_eq_map_link, build_box_alone]
    simp only [Except.map, Scene.link, resource?_box_alone]
    rfl
  have hscripts : buildAll (buildScript (boxWorld content) "res://" ⟨.root, ["game"]⟩)
      [⟨.root, ["game", "Box.gd"]⟩] = .ok ⟨[boxScript contents], []⟩ := by
    rw [buildAll, hscript]
    rfl
  have hscenes : buildAll (buildScene (boxWorld content) [boxScript contents])
      [⟨.root, ["game", "box.tscn"]⟩] =
        .ok ⟨[{ boxAlone with script := some (boxScript contents) }], []⟩ := by
    rw [buildAll, hscene]
    rfl
  exact check_of_built (discover_box content "gd") (discover_box content "tscn") hscripts hscenes

/-- Writing a dollar sign into the script changes what is wrong with it, and leaves the scene linked
to it as it was. -/
theorem check_edit_local_box :
    (boxWorld []).tree.WellFormed ∧ (boxWorld [0x24]).tree.WellFormed ∧
    ScriptEdit (Settings.default ⟨.root, ["game"]⟩) ⟨.root, ["game"]⟩ ["game"] ["Box.gd"]
      (boxWorld []) (boxWorld [0x24]) ∧
    ∃ report report',
      check (boxWorld []) (Settings.default ⟨.root, ["game"]⟩) none = .ok report ∧
      check (boxWorld [0x24]) (Settings.default ⟨.root, ["game"]⟩) none = .ok report' ∧
      report.script.map Problem.code = ["class-name"] ∧
      report'.script.map Problem.code = ["node-path-shorthand"] ∧
      (report.scenes.map fun scene => scene.script.map Script.resource) = [some "res://Box.gd"] ∧
      Unaffected (Settings.default ⟨.root, ["game"]⟩) ⟨.root, ["game"]⟩
        ⟨.root, ["game", "Box.gd"]⟩ report report' := by
  have hcheck : check (boxWorld []) (Settings.default ⟨.root, ["game"]⟩) none = .ok _ :=
    check_box "" rfl
  have hcheck' : check (boxWorld [0x24]) (Settings.default ⟨.root, ["game"]⟩) none = .ok _ :=
    check_box "$" rfl
  exact ⟨box_world_well_formed [], box_world_well_formed [0x24], script_edit_box [] [0x24],
    _, _, hcheck, hcheck', by decide, by decide, rfl,
    check_edit_local (box_world_well_formed []) (box_world_well_formed [0x24])
      (script_edit_box [] [0x24]) (by decide) hcheck hcheck'⟩

end Project

end SceneLint
