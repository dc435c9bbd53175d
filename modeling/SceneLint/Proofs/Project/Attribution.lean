import SceneLint.Proofs.Project.Report

/-!
# Whom a problem is about

Every problem of a report is about one file that discovery found. `Attributed` says what that means:
the problem has the file's path and last name, and its message begins with that name. `Tiered` adds
that the three lists of a report have codes of their own, that breaches are about files that were
built, and that no file is both a failure and in breach. `check_tiered` says it of every report.

A fault is told apart by the builder it comes from (`script_fault_code`, `scene_fault_code`), a
breach by its rule (`script_breach_code`, `scene_breach_code`).
-/

namespace SceneLint

/-- `FinalName text name` says that `name` is what stands behind the last slash of a written
path. -/
def FinalName (text name : String) : Prop :=
  '/' ∉ name.toList ∧ ∃ front, text = front ++ name ∧ (front = "" ∨ ∃ more, front = more ++ "/")

namespace FilePath

/-- What a path below a root is written behind is empty or ends in a slash. -/
theorem lead_eq (root : FilePath) : root.lead = "" ∨ ∃ more, root.lead = more ++ "/" := by
  unfold lead
  by_cases hroot : root.parts = []
  · cases hanchor : root.anchor with
    | relative => exact .inl (by simp [hroot, Anchor.text])
    | root => exact .inr ⟨"", by simp [hroot, Anchor.text]⟩
    | doubleRoot => exact .inr ⟨"/", by simp [hroot, Anchor.text]⟩
  · refine .inr ⟨root.anchor.text ++ "/".intercalate root.parts, ?_⟩
    simp [hroot, String.append_assoc]

/-- The last name of a path below a root is what stands behind the last slash of its text. -/
theorem final_name_of_below {root p : FilePath} (h : Below root p) : FinalName p.text p.name := by
  obtain ⟨names, hne, hnames, rfl⟩ := h
  change FinalName (root.descend names).text (root.descend names).name
  rw [text_descend hne]
  obtain ⟨front, last, rfl⟩ := (List.eq_nil_or_concat' names).resolve_left hne
  rw [name_descend_concat]
  refine ⟨(hnames last (by simp)).no_slash, ?_⟩
  cases front with
  | nil => exact ⟨root.lead, rfl, root.lead_eq⟩
  | cons first others =>
      refine ⟨root.lead ++ "/".intercalate (first :: others) ++ "/", ?_, .inr ⟨_, rfl⟩⟩
      rw [Text.intercalate_append "/" (by simp) (by simp)]
      simp [String.append_assoc]

end FilePath

/-! ## Codes -/

/-- `scriptFaultCodes` are the codes under which a script that cannot be built is reported. -/
def scriptFaultCodes : List String :=
  ["header", "duplicate-class-name", "duplicate-extends", "name", "read"]

/-- `sceneFaultCodes` are the codes under which a scene that cannot be built is reported. -/
def sceneFaultCodes : List String :=
  ["read", "script-resource", "master-node"]

/-- `scriptBreachCodes` are the codes under which a script that breaks a rule is reported. -/
def scriptBreachCodes : List String :=
  ["naming", "node-path-shorthand", "static-typing", "class-name", "extends",
    "reference-class-name", "export-only"]

/-- `sceneBreachCodes` are the codes under which a scene that breaks a rule is reported. -/
def sceneBreachCodes : List String :=
  ["children-with-script", "master-type", "script-on-typed-master", "reference-on-master"]

/-- The code of a breach is one for scripts. -/
theorem script_breach_code (b : ScriptBreach) : b.code ∈ scriptBreachCodes := by
  cases b <;> decide

/-- The code of a breach is one for scenes. -/
theorem scene_breach_code (b : SceneBreach) : b.code ∈ sceneBreachCodes := by
  cases b <;> simp [SceneBreach.code, sceneBreachCodes]

namespace Project

variable {w : World} {s : Settings} {root? : Option FilePath} {root path : FilePath}
  {paths scriptPaths scenePaths : List FilePath} {report : Report} {fault : BuildFault}
  {p : Problem}

/-- A file that cannot be read is reported so. -/
theorem read_fault_code (h : read w path = .error (.build fault)) : fault.code = "read" := by
  unfold read at h
  split at h
  · cases h
  · cases h
  · cases h
    rfl

/-- A script that cannot be built is reported under a code for scripts. -/
theorem script_fault_code {start : String}
    (h : buildScript w start root path = .error (.build fault)) :
    fault.code ∈ scriptFaultCodes := by
  unfold buildScript at h
  split at h
  · next hread =>
      cases h
      rw [read_fault_code hread]
      decide
  · split at h
    · cases h
    · split at h
      · next reason _ =>
          cases h
          cases reason <;> simp [BuildFault.code, scriptFaultCodes]
      · cases h

/-- A scene that cannot be built is reported under a code for scenes. -/
theorem scene_fault_code {scripts : List Script}
    (h : buildScene w scripts path = .error (.build fault)) : fault.code ∈ sceneFaultCodes := by
  unfold buildScene at h
  split at h
  · next hread =>
      cases h
      rw [read_fault_code hread]
      decide
  · split at h
    · next reason _ =>
        cases h
        cases reason <;> simp [BuildFault.code, sceneFaultCodes]
    · cases h

/-! ## Files -/

/-- `Attributed paths p` says that a problem is about one of the files at `paths`: it has the path
and the last name of that file, and its message begins with the name. -/
structure Attributed (paths : List FilePath) (p : Problem) : Prop where
  found : ∃ path ∈ paths, p.path = path.text ∧ p.file = path.name
  final_name : FinalName p.path p.file
  message : ∃ wording, p.message = p.file ++ " " ++ wording

/-- `Tiered w s root scriptPaths scenePaths report` says that each list of a report has problems of
its own kind, each about one file, and that no file is both a failure and in breach. -/
structure Tiered (w : World) (s : Settings) (root : FilePath)
    (scriptPaths scenePaths : List FilePath) (report : Report) : Prop where
  general_eq : report.general =
    scriptPaths.filterMap (problem? (buildScript w s.resourceStart root)) ++
      scenePaths.filterMap (problem? (buildScene w report.scripts))
  script_fault : ∀ p ∈ scriptPaths.filterMap (problem? (buildScript w s.resourceStart root)),
    Attributed scriptPaths p ∧ p.code ∈ scriptFaultCodes ∧ ∀ b ∈ report.script, p.path ≠ b.path
  scene_fault : ∀ p ∈ scenePaths.filterMap (problem? (buildScene w report.scripts)),
    Attributed scenePaths p ∧ p.code ∈ sceneFaultCodes ∧ ∀ b ∈ report.scene, p.path ≠ b.path
  script_breach : ∀ p ∈ report.script,
    Attributed scriptPaths p ∧ p.code ∈ scriptBreachCodes ∧
      ∃ script ∈ report.scripts, p.path = script.path.text
  scene_breach : ∀ p ∈ report.scene,
    Attributed scenePaths p ∧ p.code ∈ sceneBreachCodes ∧
      ∃ scene ∈ report.scenes, p.path = scene.path.text

/-- A problem that has the path and the name of a file below the root is about that file. -/
theorem attributed_of_below (hbelow : FilePath.Below root path) (hmem : path ∈ paths)
    (hpath : p.path = path.text) (hfile : p.file = path.name)
    (hmessage : ∃ wording, p.message = p.file ++ " " ++ wording) : Attributed paths p := by
  refine ⟨⟨path, hmem, hpath, hfile⟩, ?_, hmessage⟩
  rw [hpath, hfile]
  exact FilePath.final_name_of_below hbelow

/-- The problem of a file that cannot be built comes from a fault of that file. -/
theorem fault_of_problem? {α : Type} {build : FilePath → Except FileFault α}
    (h : p ∈ paths.filterMap (problem? build)) :
    ∃ path ∈ paths, ∃ fault, build path = .error (.build fault) ∧ p = fault.problem path := by
  obtain ⟨path, hmem, hproblem⟩ := List.mem_filterMap.1 h
  exact ⟨path, hmem, problem?_eq_some_iff.1 hproblem⟩

/-- A breach of a script is one of its rules, told under its name and path. -/
theorem breach_of_script_problem (h : Composed w s root scriptPaths scenePaths report)
    (hp : p ∈ report.script) : ∃ script ∈ report.scripts, ∃ b : ScriptBreach,
      p = ⟨script.path.name, script.path.text, b.code, b.message script.path.name⟩ := by
  rw [h.script_eq, List.mem_flatMap] at hp
  obtain ⟨script, hscript, hp⟩ := hp
  obtain ⟨b, _, rfl⟩ := List.mem_map.1 hp
  obtain ⟨_, _, _, _, hbuild⟩ := build_script_eq_ok_iff.1 (h.script_built hscript).2
  obtain ⟨_, _, _, _, hfields⟩ := Script.build_eq_ok_iff.1 hbuild
  have hname : script.fullName = script.path.name := by rw [hfields]
  exact ⟨script, hscript, b, by rw [hname]⟩

/-- A breach of a scene is one of the rules, told under its name and path. -/
theorem breach_of_scene_problem (h : Composed w s root scriptPaths scenePaths report)
    (hp : p ∈ report.scene) : ∃ scene ∈ report.scenes, ∃ b : SceneBreach,
      p = ⟨scene.path.name, scene.path.text, b.code, b.message scene.path.name⟩ := by
  rw [h.scene_eq, List.mem_flatMap] at hp
  obtain ⟨scene, hscene, hp⟩ := hp
  obtain ⟨b, _, rfl⟩ := List.mem_map.1 hp
  obtain ⟨_, _, hbuild⟩ := build_scene_eq_ok_iff.1 (h.scene_built hscene).2
  obtain ⟨_, _, _, _, hfields⟩ := Scene.build_eq_ok_iff.1 hbuild
  have hname : scene.fullName = scene.path.name := by rw [hfields]
  exact ⟨scene, hscene, b, by rw [hname]⟩

/-- A file that cannot be built is not written like one that was. -/
theorem text_ne_of_built {α : Type} {build : FilePath → Except FileFault α} {model : α}
    {other : FilePath} (hbelow : ∀ path ∈ paths, FilePath.Below root path) (hpath : path ∈ paths)
    (hother : other ∈ paths) (hfault : build path = .error (.build fault))
    (hbuilt : build other = .ok model) : path.text ≠ other.text := by
  intro heq
  rw [FilePath.text_injective_of_below (hbelow path hpath) (hbelow other hother) heq,
    hbuilt] at hfault
  cases hfault

/-- Every problem of a report is about one file that was found, under a code of its tier; breaches
are about files that were built, and no file is both a failure and in breach. -/
theorem check_tiered (hw : w.tree.WellFormed) (h : check w s root? = .ok report) :
    ∃ scriptPaths scenePaths,
      Discovery.discover w (rootOf s root?) s.scriptExtension s.skipDirs = .ok scriptPaths ∧
      Discovery.discover w (rootOf s root?) s.sceneExtension s.skipDirs = .ok scenePaths ∧
      Tiered w s (rootOf s root?) scriptPaths scenePaths report := by
  obtain ⟨scriptPaths, scenePaths, hcomposed⟩ := composed_of_check h
  have hscripts : ∀ path ∈ scriptPaths, FilePath.Below (rootOf s root?) path :=
    fun _ => Discovery.below_of_mem_discover hw hcomposed.script_paths
  have hscenes : ∀ path ∈ scenePaths, FilePath.Below (rootOf s root?) path :=
    fun _ => Discovery.below_of_mem_discover hw hcomposed.scene_paths
  refine ⟨scriptPaths, scenePaths, hcomposed.script_paths, hcomposed.scene_paths,
    hcomposed.general_eq, ?_, ?_, ?_, ?_⟩
  · intro p hp
    obtain ⟨path, hmem, fault, hfault, rfl⟩ := fault_of_problem? hp
    refine ⟨attributed_of_below (hscripts path hmem) hmem rfl rfl ⟨_, rfl⟩,
      script_fault_code hfault, ?_⟩
    intro b hb
    obtain ⟨script, hscript, breach, rfl⟩ := breach_of_script_problem hcomposed hb
    obtain ⟨hfound, hbuilt⟩ := hcomposed.script_built hscript
    exact text_ne_of_built hscripts hmem hfound hfault hbuilt
  · intro p hp
    obtain ⟨path, hmem, fault, hfault, rfl⟩ := fault_of_problem? hp
    refine ⟨attributed_of_below (hscenes path hmem) hmem rfl rfl ⟨_, rfl⟩,
      scene_fault_code hfault, ?_⟩
    intro b hb
    obtain ⟨scene, hscene, breach, rfl⟩ := breach_of_scene_problem hcomposed hb
    obtain ⟨hfound, hbuilt⟩ := hcomposed.scene_built hscene
    exact text_ne_of_built hscenes hmem hfound hfault hbuilt
  · intro p hp
    obtain ⟨script, hscript, breach, rfl⟩ := breach_of_script_problem hcomposed hp
    have hfound := (hcomposed.script_built hscript).1
    exact ⟨attributed_of_below (hscripts _ hfound) hfound rfl rfl ⟨_, rfl⟩,
      script_breach_code breach, script, hscript, rfl⟩
  · intro p hp
    obtain ⟨scene, hscene, breach, rfl⟩ := breach_of_scene_problem hcomposed hp
    have hfound := (hcomposed.scene_built hscene).1
    exact ⟨attributed_of_below (hscenes _ hfound) hfound rfl rfl ⟨_, rfl⟩,
      scene_breach_code breach, scene, hscene, rfl⟩

/-- `mixedProject` has a script and a scene that cannot be built, and a script and a scene that
break a rule; blanks and brackets stand in a name. -/
def mixedProject : Tree := .directory
  [ ("Broken.gd", .file (Text.Utf8.encode "class_name A\nclass_name B\n")),
    ("hud.tscn", .file []),
    ("menu.tscn", .file (Text.Utf8.encode "[node type=\"Control\"]")),
    ("my [b] box.gd", .file []) ]

/-- `mixedWorld` holds the mixed project and nothing else. -/
def mixedWorld : World := ⟨.directory [("game", mixedProject)], [], [], ⟨[], [], []⟩, .usual⟩

/-- A file system can hold the mixed project. -/
theorem mixed_world_well_formed : mixedWorld.tree.WellFormed := by
  have hproject : mixedProject.WellFormed := by
    refine .directory _ (by decide) (by decide) ?_
    simp only [List.forall_mem_cons]
    exact ⟨.file _, .file _, .file _, .file _, by simp⟩
  exact .directory _ (by decide) (by decide) (by simpa using hproject)

/-- The tour of the mixed project passes its root and the four files. -/
theorem discover_mixed (extension : String) :
    Discovery.discover mixedWorld ⟨.root, ["game"]⟩ extension [".godot", "addons"] =
      Discovery.survey mixedWorld ("." ++ extension) [".godot", "addons"] 901
        [ (⟨.root, ["game"]⟩, mixedProject),
          (⟨.root, ["game", "Broken.gd"]⟩,
            .file (Text.Utf8.encode "class_name A\nclass_name B\n")),
          (⟨.root, ["game", "hud.tscn"]⟩, .file []),
          (⟨.root, ["game", "menu.tscn"]⟩, .file (Text.Utf8.encode "[node type=\"Control\"]")),
          (⟨.root, ["game", "my [b] box.gd"]⟩, .file []) ] := by
  have hfind : mixedWorld.find ⟨.root, ["game"]⟩ = .ok (["game"], mixedProject) := rfl
  have hhas : mixedWorld.has ⟨.root, ["game"]⟩ = .ok true := by decide +kernel
  rw [Discovery.discover_of_find hhas hfind rfl, mixedProject, Discovery.tour_directory (by decide),
    Discovery.sortByName, List.mergeSort_of_pairwise (by decide)]
  rfl

/-- `mixedScript` is the script of the mixed project that was built. -/
def mixedScript : Script :=
  ⟨"my [b] box.gd", "my [b] box", ⟨.root, ["game", "my [b] box.gd"]⟩, "res://my [b] box.gd", "",
    .behaviour, none, none⟩

/-- `mixedScene` is the scene of the mixed project that was built. -/
def mixedScene : Scene :=
  ⟨"menu.tscn", "menu", ⟨.root, ["game", "menu.tscn"]⟩, "[node type=\"Control\"]", "Control", false,
    none⟩

/-- The report on the mixed project has a problem of every tier, each told under the name of its
file. -/
theorem check_tiered_mixed :
    mixedWorld.tree.WellFormed ∧
    ∃ report, check mixedWorld (Settings.default ⟨.root, ["game"]⟩) none = .ok report ∧
      report.general.map Problem.message =
        ["Broken.gd multiple class_names", "hud.tscn no master node"] ∧
      report.script.map Problem.message = ["my [b] box.gd name not upper camel case"] ∧
      report.scene.map Problem.message =
        ["menu.tscn scene master node is not of type Node, Node2D, or Node3D"] ∧
      ∃ scriptPaths scenePaths,
        Discovery.discover mixedWorld ⟨.root, ["game"]⟩ "gd" [".godot", "addons"] =
          .ok scriptPaths ∧
        Discovery.discover mixedWorld ⟨.root, ["game"]⟩ "tscn" [".godot", "addons"] =
          .ok scenePaths ∧
        Tiered mixedWorld (Settings.default ⟨.root, ["game"]⟩) ⟨.root, ["game"]⟩ scriptPaths
          scenePaths report := by
  have hbroken : read mixedWorld ⟨.root, ["game", "Broken.gd"]⟩ =
      .ok "class_name A\nclass_name B\n" := to_option_eq_some_iff.1 (by decide +kernel)
  have hmenu : read mixedWorld ⟨.root, ["game", "menu.tscn"]⟩ =
      .ok "[node type=\"Control\"]" := to_option_eq_some_iff.1 (by decide +kernel)
  have hfault : buildScript mixedWorld "res://" ⟨.root, ["game"]⟩ ⟨.root, ["game", "Broken.gd"]⟩ =
      .error (.build (.script (.repeatedClassName 2))) := by
    rw [buildScript, hbroken]
    rfl
  have hscripts : buildAll (buildScript mixedWorld "res://" ⟨.root, ["game"]⟩)
      [⟨.root, ["game", "Broken.gd"]⟩, ⟨.root, ["game", "my [b] box.gd"]⟩] =
      .ok ⟨[mixedScript], [BuildFault.problem (.script (.repeatedClassName 2))
        ⟨.root, ["game", "Broken.gd"]⟩]⟩ := by
    rw [buildAll, hfault]
    rfl
  have hscene : buildScene mixedWorld [mixedScript] ⟨.root, ["game", "menu.tscn"]⟩ =
      .ok mixedScene := by
    rw [buildScene, hmenu]
    rfl
  have hscenes : buildAll (buildScene mixedWorld [mixedScript])
      [⟨.root, ["game", "hud.tscn"]⟩, ⟨.root, ["game", "menu.tscn"]⟩] =
      .ok ⟨[mixedScene], [BuildFault.problem (.scene .noMaster)
        ⟨.root, ["game", "hud.tscn"]⟩]⟩ := by
    have hhud : buildScene mixedWorld [mixedScript] ⟨.root, ["game", "hud.tscn"]⟩ =
        .error (.build (.scene .noMaster)) := rfl
    rw [buildAll, hhud, buildAll, hscene]
    rfl
  have hcheck : check mixedWorld (Settings.default ⟨.root, ["game"]⟩) none = .ok _ :=
    check_of_built (discover_mixed "gd") (discover_mixed "tscn") hscripts hscenes
  exact ⟨mixed_world_well_formed, _, hcheck, rfl, rfl, rfl,
    check_tiered mixed_world_well_formed hcheck⟩

end Project

end SceneLint
