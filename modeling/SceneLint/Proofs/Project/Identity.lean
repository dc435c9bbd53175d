import SceneLint.Proofs.Path.Separators
import SceneLint.Proofs.Project.FailFast
import SceneLint.Proofs.Project.Report

/-!
# Which scripts share a resource path

Scenes name scripts by resource paths, and the index keeps one script for each. Discovery finds
every file under a path of its own, but a resource path does not tell a backslash from a slash. So
two scripts share one exactly when their paths differ in nothing but the kind of slash
(`resource_eq_iff`), and `resources_distinct_iff` says of a whole report when no two do, which is
also when every script can be linked. Scripts without backslashes in their names never share one.
`resources_collide` is a project in which two do.
-/

namespace SceneLint

namespace Project

variable {w : World} {s : Settings} {root? : Option FilePath} {report : Report}

/-- Files below one root share a resource path exactly when their paths differ in nothing but the
kind of slash. -/
theorem resource_eq_iff {start resource resource' : String} {root p q : FilePath}
    (hp : FilePath.Below root p) (hq : FilePath.Below root q)
    (hpath : Resource.ofFile start p root = .ok resource)
    (hpath' : Resource.ofFile start q root = .ok resource') :
    resource = resource' ↔ Resource.slashed p.text = Resource.slashed q.text := by
  obtain ⟨a, ha, _, rfl⟩ := hp
  obtain ⟨b, hb, _, rfl⟩ := hq
  change Resource.ofFile start (root.descend a) root = .ok resource at hpath
  change Resource.ofFile start (root.descend b) root = .ok resource' at hpath'
  rw [Resource.of_file_descend start root ha] at hpath
  rw [Resource.of_file_descend start root hb] at hpath'
  cases hpath
  cases hpath'
  change _ ↔ Resource.slashed (root.descend a).text = Resource.slashed (root.descend b).text
  rw [FilePath.text_descend ha, FilePath.text_descend hb, Resource.slashed_append,
    Resource.slashed_append, String.append_right_inj, String.append_right_inj]

/-- Paths below one root whose names hold no backslash differ in more than the kind of slash. -/
theorem text_eq_of_slashed_eq {root : FilePath} {a b : List String} (hne : a ≠ []) (hne' : b ≠ [])
    (ha : ∀ name ∈ a, '\\' ∉ name.toList) (hb : ∀ name ∈ b, '\\' ∉ name.toList)
    (h : Resource.slashed (root.descend a).text = Resource.slashed (root.descend b).text) :
    (root.descend a).text = (root.descend b).text := by
  rw [FilePath.text_descend hne, FilePath.text_descend hne', Resource.slashed_append,
    Resource.slashed_append, String.append_right_inj,
    Resource.slashed_of_not_mem (Text.not_mem_intercalate (by decide) ha),
    Resource.slashed_of_not_mem (Text.not_mem_intercalate (by decide) hb)] at h
  rw [FilePath.text_descend hne, FilePath.text_descend hne', h]

/-- Of different scripts, no two share a resource path exactly when each can be linked. -/
theorem resources_nodup_iff_linked {scripts : List Script} (hnodup : scripts.Nodup) :
    (scripts.map Script.resource).Nodup ↔
      ∀ script ∈ scripts, Scene.linked? scripts (some script.resource) = some script := by
  simp only [Scene.linked?_eq, Option.bind_some]
  constructor
  · intro hresources script hscript
    cases hfound : scripts.find? fun other => other.resource == script.resource with
    | none => simpa using List.find?_eq_none.1 hfound script hscript
    | some other =>
        have hsame := List.find?_some hfound
        rw [beq_iff_eq] at hsame
        rw [List.inj_on_of_nodup_map hresources (List.mem_of_find?_eq_some hfound) hscript hsame]
  · intro hlinked
    apply hnodup.map_on
    intro a ha b hb heq
    have hfound := hlinked a ha
    rw [heq, hlinked b hb] at hfound
    exact (Option.some.inj hfound).symm

/-- A script of a report lies below the root and has the resource path of its file. -/
theorem below_and_resource {root : FilePath} {scriptPaths scenePaths : List FilePath}
    (hw : w.tree.WellFormed) (h : Composed w s root scriptPaths scenePaths report)
    {script : Script} (hscript : script ∈ report.scripts) :
    FilePath.Below root script.path ∧
      Resource.ofFile s.resourceStart script.path root = .ok script.resource := by
  obtain ⟨hfound, hbuilt⟩ := h.script_built hscript
  obtain ⟨contents, resource, _, hresource, hscript⟩ := build_script_eq_ok_iff.1 hbuilt
  obtain ⟨_, _, _, _, heq⟩ := Script.build_eq_ok_iff.1 hscript
  refine ⟨Discovery.below_of_mem_discover hw h.script_paths hfound, ?_⟩
  rw [hresource, heq]

/-- No two scripts of a report share a resource path exactly when no two of their paths differ in
nothing but the kind of slash, and exactly when every script can be linked. Scripts without
backslashes in their names share none. -/
theorem resources_distinct_iff (hw : w.tree.WellFormed) (h : check w s root? = .ok report) :
    ((report.scripts.map Script.resource).Nodup ↔
      report.scripts.Pairwise fun a b =>
        Resource.slashed a.path.text ≠ Resource.slashed b.path.text) ∧
    ((report.scripts.map Script.resource).Nodup ↔
      ∀ script ∈ report.scripts,
        Scene.linked? report.scripts (some script.resource) = some script) ∧
    ((∀ script ∈ report.scripts, ∀ names, script.path = report.root.descend names →
        ∀ name ∈ names, '\\' ∉ name.toList) →
      (report.scripts.map Script.resource).Nodup) := by
  obtain ⟨scriptPaths, scenePaths, hcomposed⟩ := composed_of_check h
  have htexts := (report_texts_nodup hw h).1
  have hslashes : (report.scripts.map Script.resource).Nodup ↔
      report.scripts.Pairwise fun a b =>
        Resource.slashed a.path.text ≠ Resource.slashed b.path.text := by
    rw [List.Nodup, List.pairwise_map]
    apply List.Pairwise.iff_of_mem
    intro a b ha hb
    obtain ⟨hbelow, hresource⟩ := below_and_resource hw hcomposed ha
    obtain ⟨hbelow', hresource'⟩ := below_and_resource hw hcomposed hb
    exact not_congr (resource_eq_iff hbelow hbelow' hresource hresource')
  refine ⟨hslashes, resources_nodup_iff_linked htexts.of_map, fun hplain => hslashes.2 ?_⟩
  -- Scripts are told apart by the texts of their paths, and unifying slashes changes no name.
  rw [List.Nodup, List.pairwise_map] at htexts
  refine htexts.imp_of_mem ?_
  intro a b ha hb hne heq
  obtain ⟨names, hsome, _, hnames⟩ := (below_and_resource hw hcomposed ha).1
  obtain ⟨names', hsome', _, hnames'⟩ := (below_and_resource hw hcomposed hb).1
  rw [hcomposed.root_eq] at hplain
  have hkept := hplain a ha names hnames
  have hkept' := hplain b hb names' hnames'
  rw [hnames, hnames'] at hne heq
  exact hne (text_eq_of_slashed_eq hsome hsome' hkept hkept' heq)

/-- `pairProject name` holds one script in a directory and one of the given name beside it. -/
def pairProject (name : String) : Tree :=
  .directory [("A", .directory [("B.gd", .file [])]), (name, .file [])]

/-- `pairWorld name` holds the project with two scripts and nothing else. -/
def pairWorld (name : String) : World :=
  ⟨.directory [("game", pairProject name)], [], [], ⟨[], [], []⟩, .usual⟩

/-- A file system can hold the project with two scripts. -/
theorem pair_world_well_formed {name : String} (hname : IsEntryName name) (hne : "A" ≠ name) :
    (pairWorld name).tree.WellFormed := by
  have hinner : Tree.WellFormed (.directory [("B.gd", .file [])]) :=
    .directory _ (by decide) (by decide) (by simpa using .file [])
  have houter : (pairProject name).WellFormed := by
    refine .directory _ (by simpa using hne) ?_ ?_
    · simp only [List.forall_mem_cons]
      exact ⟨by decide, hname, by simp⟩
    · simp only [List.forall_mem_cons]
      exact ⟨hinner, .file _, by simp⟩
  have hgame : IsEntryName "game" := by decide
  exact .directory _ (by simp) (by simpa using hgame) (by simpa using houter)

/-- The tour of the project with two scripts passes the directory first. -/
theorem discover_pair {name : String} (horder : "A" ≤ name) (extension : String) :
    Discovery.discover (pairWorld name) ⟨.root, ["game"]⟩ extension [".godot", "addons"] =
      Discovery.survey (pairWorld name) ("." ++ extension) [".godot", "addons"] 901
        [ (⟨.root, ["game"]⟩, pairProject name),
          (⟨.root, ["game", "A"]⟩, .directory [("B.gd", .file [])]),
          (⟨.root, ["game", "A", "B.gd"]⟩, .file []),
          (⟨.root, ["game", name]⟩, .file []) ] := by
  have hfind : (pairWorld name).find ⟨.root, ["game"]⟩ = .ok (["game"], pairProject name) := rfl
  have hhas : (pairWorld name).has ⟨.root, ["game"]⟩ = .ok true := rfl
  rw [Discovery.discover_of_find hhas hfind rfl, pairProject, Discovery.tour_directory (by decide),
    Discovery.sortByName, List.mergeSort_of_pairwise (by simpa using horder)]
  simp only [List.flatMap_cons, List.flatMap_nil]
  rw [Discovery.tour_directory (by decide), Discovery.sortByName, List.mergeSort_singleton]
  rfl

/-- `pairReport first second` is the report on a project of two scripts without scenes. -/
def pairReport (first second : Script) : Report :=
  reportOn ⟨.root, ["game"]⟩ ["Node", "Node2D", "Node3D"] true (⟨[first, second], []⟩, ⟨[], []⟩)

/-- `pairScript` is the script in the directory. -/
def pairScript : Script :=
  ⟨"B.gd", "B", ⟨.root, ["game", "A", "B.gd"]⟩, "res://A/B.gd", "", .behaviour, none, none⟩

/-- In a project with a backslash in a name, every script has a resource path of its own as long as
no slash stands in its place elsewhere. -/
theorem resources_distinct_pair :
    (pairWorld "C\\D.gd").tree.WellFormed ∧
    ∃ report, check (pairWorld "C\\D.gd") (Settings.default ⟨.root, ["game"]⟩) none = .ok report ∧
      report.scripts.map Script.resource = ["res://A/B.gd", "res://C/D.gd"] ∧
      ∀ script ∈ report.scripts,
        Scene.linked? report.scripts (some script.resource) = some script := by
  have hw : (pairWorld "C\\D.gd").tree.WellFormed :=
    pair_world_well_formed (by decide) (by decide)
  have hcheck : check (pairWorld "C\\D.gd") (Settings.default ⟨.root, ["game"]⟩) none =
      .ok (pairReport pairScript ⟨"C\\D.gd", "C\\D", ⟨.root, ["game", "C\\D.gd"]⟩, "res://C/D.gd",
        "", .behaviour, none, none⟩) :=
    check_of_built (discover_pair (by decide) "gd") (discover_pair (by decide) "tscn") rfl rfl
  refine ⟨hw, _, hcheck, rfl, ?_⟩
  exact (resources_distinct_iff hw hcheck).2.1.1 (by decide)

/-- A backslash in the name of a script makes it share the resource path of one in a directory, and
no scene can be linked to it. -/
theorem resources_collide :
    (pairWorld "A\\B.gd").tree.WellFormed ∧
    ∃ report, check (pairWorld "A\\B.gd") (Settings.default ⟨.root, ["game"]⟩) none = .ok report ∧
      report.scripts.map (·.path.text) = ["/game/A/B.gd", "/game/A\\B.gd"] ∧
      report.scripts.map Script.resource = ["res://A/B.gd", "res://A/B.gd"] ∧
      ¬ (report.scripts.map Script.resource).Nodup ∧
      Scene.linked? report.scripts (some "res://A/B.gd") = some pairScript := by
  have hcheck : check (pairWorld "A\\B.gd") (Settings.default ⟨.root, ["game"]⟩) none =
      .ok (pairReport pairScript ⟨"A\\B.gd", "A\\B", ⟨.root, ["game", "A\\B.gd"]⟩, "res://A/B.gd",
        "", .behaviour, none, none⟩) :=
    check_of_built (discover_pair (by decide) "gd") (discover_pair (by decide) "tscn") rfl rfl
  exact ⟨pair_world_well_formed (by decide) (by decide), _, hcheck, rfl, rfl, by decide, rfl⟩

end Project

end SceneLint
