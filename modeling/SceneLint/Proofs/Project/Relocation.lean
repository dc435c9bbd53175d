import SceneLint.Proofs.Project.Identity
import SceneLint.Proofs.Project.Locality

/-!
# Moving a project

`Relocated` says that the same project lies below two roots: walks from them are told the same of
every entry, and the files that they find have the same content. The roots may be written in any
way. `check_relocated` is the main statement: both are checked, and the one report is the other with
one root in place of the other (`Report.moved`); only where the walks come to a directory that lies
too deep do both checks fail. Models change their paths and nothing else, problems only where they
give a path.

A walk looks at no more of an entry than its `status`, so both walks go the same ways
(`SameBelow.discover_ok`) or are stopped at the same place (`SameBelow.discover_error`). A model
looks at no more of its path than its last name, and at its resource path, which is told by the way
from the root alone.
-/

namespace SceneLint

/-! ## What a walk sees -/

namespace Discovery

/-- `status w p` is what a walk is told of the entry at a path, if there is one: whether it is a
directory, and whether a directory lies there once links are followed. -/
def status (w : World) (p : FilePath) : Except SystemError (Option (Bool × Bool)) :=
  match w.findEntry p with
  | .error _ => .ok none
  | .ok (_, t) =>
      match w.hasLink p, w.hasDirectory p with
      | .error e, _ => .error e
      | .ok _, .error e => .error e
      | .ok _, .ok directory => .ok (some (t.isDirectory, directory))

/-- `SameBelow skip w w' r r'` says that walks from two roots are told the same of every entry that
they come to, and may list every directory that they enter. -/
structure SameBelow (skip : List String) (w w' : World) (r r' : FilePath) : Prop where
  host_eq : w'.host = w.host
  root_directory : w.hasDirectory r = .ok true ∧ w'.hasDirectory r' = .ok true
  root_kept : r.name ∉ skip ∧ r'.name ∉ skip
  status_eq : ∀ front last, IsEntered w skip r front → IsEntryName last →
    ∃ seen, status w (r.descend (front ++ [last])) = .ok seen ∧
      status w' (r'.descend (front ++ [last])) = .ok seen
  listed : ∀ names, IsEntered w skip r names →
    (r.descend names).text ∉ w.denied.list ∧ (r'.descend names).text ∉ w'.denied.list

section Status

variable {w : World} {p : FilePath} {seen : Option (Bool × Bool)}

/-- What a walk is told of an entry is what lies there. -/
theorem status_eq_some_iff {real directory : Bool} :
    status w p = .ok (some (real, directory)) ↔
      (∃ here t, w.findEntry p = .ok (here, t) ∧ t.isDirectory = real) ∧
        untold? w p = none ∧ w.hasDirectory p = .ok directory := by
  unfold status untold?
  cases w.findEntry p with
  | error fault => simp
  | ok found =>
      obtain ⟨here, t⟩ := found
      cases w.hasLink p with
      | error e => simp
      | ok link => cases w.hasDirectory p <;> simp

/-- Where a walk is told something, it is told whether there is an entry. -/
theorem entry_iff_status (h : status w p = .ok seen) :
    (∃ here t, w.findEntry p = .ok (here, t)) ↔ seen.isSome := by
  cases seen with
  | some told =>
      obtain ⟨⟨here, t, hentry, -⟩, -⟩ := status_eq_some_iff.1 h
      simp [hentry]
  | none =>
      unfold status at h
      cases hentry : w.findEntry p with
      | error fault => simp
      | ok found =>
          rw [hentry] at h
          dsimp only at h
          split at h <;> cases h

/-- Where a walk is told something, it is told whether there is a directory. -/
theorem is_real_directory_iff_status (h : status w p = .ok seen) :
    w.IsRealDirectory p ↔ ∃ directory, seen = some (true, directory) := by
  constructor
  · rintro ⟨here, entries, hentry⟩
    have hsome : seen.isSome := (entry_iff_status h).1 ⟨here, _, hentry⟩
    obtain ⟨⟨real, directory⟩, rfl⟩ := Option.isSome_iff_exists.1 hsome
    obtain ⟨⟨_, t, hentry', hreal⟩, -⟩ := status_eq_some_iff.1 h
    obtain ⟨rfl, rfl⟩ := Prod.mk.inj (Except.ok.inj (hentry.symm.trans hentry'))
    exact ⟨directory, by rw [← hreal]; rfl⟩
  · rintro ⟨directory, rfl⟩
    obtain ⟨⟨here, t, hentry, hreal⟩, -⟩ := status_eq_some_iff.1 h
    cases t with
    | directory entries => exact ⟨here, entries, hentry⟩
    | file content => cases hreal
    | link target => cases hreal

end Status

namespace SameBelow

variable {skip : List String} {w w' : World} {r r' : FilePath} {names : List String}
  {extension : String} {halt : Halt}

/-- Both walks enter the same directories. -/
theorem entered_iff (h : SameBelow skip w w' r r') :
    IsEntered w' skip r' names ↔ IsEntered w skip r names := by
  induction names using List.reverseRecOn with
  | nil =>
      rw [entered_nil_iff, entered_nil_iff]
      exact ⟨fun _ => h.root_kept.1, fun _ => h.root_kept.2⟩
  | append_singleton names name ih =>
      rw [entered_concat_iff, entered_concat_iff, ih]
      refine and_congr_right fun hentered => and_congr_right fun hname => ?_
      obtain ⟨seen, hseen, hseen'⟩ := h.status_eq names name hentered hname
      rw [is_real_directory_iff_status hseen, is_real_directory_iff_status hseen']

/-- Walks from two roots see the same in either order. -/
theorem symm (h : SameBelow skip w w' r r') : SameBelow skip w' w r' r where
  host_eq := h.host_eq.symm
  root_directory := h.root_directory.symm
  root_kept := h.root_kept.symm
  status_eq := fun front last hentered hlast =>
    let ⟨seen, hseen, hseen'⟩ := h.status_eq front last (h.entered_iff.1 hentered) hlast
    ⟨seen, hseen', hseen⟩
  listed := fun names hentered => (h.listed names (h.entered_iff.1 hentered)).symm

/-- Of an entry that one walk meets, both are told the same. -/
theorem status_of_met (h : SameBelow skip w w' r r') (hmet : IsMet w skip r names) :
    ∃ real directory, status w (r.descend names) = .ok (some (real, directory)) ∧
      status w' (r'.descend names) = .ok (some (real, directory)) := by
  obtain ⟨front, last, rfl, hentered, hlast, hentry⟩ := hmet
  obtain ⟨seen, hseen, hseen'⟩ := h.status_eq front last hentered hlast
  have hsome := (entry_iff_status hseen).1 hentry
  obtain ⟨⟨real, directory⟩, rfl⟩ := Option.isSome_iff_exists.1 hsome
  exact ⟨real, directory, hseen, hseen'⟩

/-- An entry that one walk meets is met by the other. -/
theorem met (h : SameBelow skip w w' r r') (hmet : IsMet w skip r names) :
    IsMet w' skip r' names := by
  obtain ⟨real, directory, -, hseen'⟩ := h.status_of_met hmet
  obtain ⟨front, last, rfl, hentered, hlast, -⟩ := hmet
  exact ⟨front, last, rfl, h.entered_iff.2 hentered, hlast, (entry_iff_status hseen').2 rfl⟩

/-- A file that one walk finds is found by the other. -/
theorem is_match {suffix : String} (h : SameBelow skip w w' r r')
    (hmatch : IsMatch w suffix skip r names) : IsMatch w' suffix skip r' names := by
  obtain ⟨hmet, hno, hsuffix⟩ := hmatch
  refine ⟨h.met hmet, ?_, ?_⟩
  · obtain ⟨real, directory, hseen, hseen'⟩ := h.status_of_met hmet
    rw [(status_eq_some_iff.1 hseen).2.2] at hno
    rw [(status_eq_some_iff.1 hseen').2.2, hno]
  · obtain ⟨front, last, rfl, -⟩ := hmet
    rw [← hsuffix]
    simp only [FilePath.suffix, FilePath.name_descend_concat]

/-- Both walks find the same files. -/
theorem match_iff {suffix : String} (h : SameBelow skip w w' r r') :
    IsMatch w' suffix skip r' names ↔ IsMatch w suffix skip r names :=
  ⟨h.symm.is_match, h.is_match⟩

/-- Something lies at the root. -/
theorem has_root (h : SameBelow skip w w' r r') : w.has r = .ok true := by
  by_contra hno
  exact hno ((World.has_directory_of_not_has hno).symm.trans h.root_directory.1)

/-- Nothing stops a walk but a directory that lies too deep, and that stops the other walk, too. -/
theorem stops (h : SameBelow skip w w' r r') (hstops : Stops w r skip names halt) :
    halt = .tooDeep w.host.tooDeep ∧ Stops w' r' skip names halt := by
  cases hstops with
  | untold hmet huntold =>
      obtain ⟨real, directory, hseen, -⟩ := h.status_of_met hmet
      rw [(status_eq_some_iff.1 hseen).2.1] at huntold
      cases huntold
  | tooDeep hwhere htold hdeep =>
      refine ⟨rfl, ?_⟩
      rw [← h.host_eq] at hdeep ⊢
      rcases hwhere with rfl | ⟨hmet, hreal⟩
      · exact .tooDeep (.inl rfl) (by simpa using told_root h.symm.has_root) hdeep
      · obtain ⟨real, directory, hseen, hseen'⟩ := h.status_of_met hmet
        rw [is_real_directory_iff_status hseen, ← is_real_directory_iff_status hseen'] at hreal
        exact .tooDeep (.inr ⟨h.met hmet, hreal⟩) (status_eq_some_iff.1 hseen').2.1 hdeep
  | unlisted hentered _ _ hlist => exact absurd hlist (h.listed names hentered).1

/-- A discovery from one root fails only for a directory that lies too deep, and then the one from
the other root fails alike. -/
theorem discover_error (h : SameBelow skip w w' r r') (hw : w.tree.WellFormed)
    (hw' : w'.tree.WellFormed) (hfound : discover w r extension skip = .error halt) :
    halt = .tooDeep w.host.tooDeep ∧ (∃ names, Stops w r skip names halt) ∧
      discover w' r' extension skip = .error halt := by
  rw [discover_error_iff_obstacle hw] at hfound
  rw [discover_error_iff_obstacle hw']
  cases hfound with
  | untold hno => simp [h.has_root] at hno
  | noRoot hno => simp [h.has_root] at hno
  | rootNotDirectory _ hno => simp [h.root_directory.1] at hno
  | met names _ hstops hfirst =>
      obtain ⟨hhalt, hstops'⟩ := h.stops hstops
      exact ⟨hhalt, ⟨names, hstops⟩, .met names h.root_directory.2 hstops' fun other halt' hother =>
        hfirst other halt' (h.symm.stops hother).2⟩

/-- Where one discovery finds files, so does the other: the same ways down from their roots and in
the same order. -/
theorem discover_ok {paths : List FilePath} (h : SameBelow skip w w' r r') (hw : w.tree.WellFormed)
    (hw' : w'.tree.WellFormed) (hfound : discover w r extension skip = .ok paths) :
    ∃ ways : List (List String), paths = ways.map r.descend ∧
      discover w' r' extension skip = .ok (ways.map r'.descend) ∧
      ∀ names ∈ ways, IsMatch w ("." ++ extension) skip r names := by
  obtain ⟨ways, rfl, hways, horder⟩ := discover_ok_matches hw hfound
  cases hfound' : discover w' r' extension skip with
  | error halt =>
      obtain ⟨-, -, herror⟩ := h.symm.discover_error hw' hw hfound'
      rw [hfound] at herror
      cases herror
  | ok paths' =>
      obtain ⟨ways', rfl, hways', horder'⟩ := discover_ok_matches hw' hfound'
      -- A list in strict order is known by its members.
      have hsame : ways' = ways := horder'.eq_of_mem_iff horder fun names => by
        rw [hways, hways', h.match_iff]
      exact ⟨ways, rfl, by rw [hsame], fun names => (hways names).1⟩

end SameBelow

end Discovery

/-! ## What is moved -/

/-- `FilePath.moved r r' p` leads from `r'` the way that `p` leads from `r`. -/
def FilePath.moved (r r' p : FilePath) : FilePath :=
  r'.descend (p.parts.drop r.parts.length)

/-- `Script.moved r r' s` is a script with its path moved. -/
def Script.moved (r r' : FilePath) (s : Script) : Script :=
  { s with path := .moved r r' s.path }

/-- `Scene.moved r r' s` is a scene with its path moved, and that of its script. -/
def Scene.moved (r r' : FilePath) (s : Scene) : Scene :=
  { s with path := .moved r r' s.path, script := s.script.map (.moved r r') }

/-- `Problem.moved r r' p` is a problem with the lead of `r'` in place of that of `r` before its
path. -/
def Problem.moved (r r' : FilePath) (p : Problem) : Problem :=
  { p with path := r'.lead ++ String.ofList (p.path.toList.drop r.lead.toList.length) }

/-- `Report.moved r r' report` is a report with one root in place of the other. -/
def Report.moved (r r' : FilePath) (report : Report) : Report where
  root := r'
  scripts := report.scripts.map (.moved r r')
  scenes := report.scenes.map (.moved r r')
  general := report.general.map (.moved r r')
  script := report.script.map (.moved r r')
  scene := report.scene.map (.moved r r')

section Moved

variable {r r' p p' : FilePath} {names : List String}

/-- A way down from one root is moved to the same way down from the other. -/
theorem FilePath.moved_descend : FilePath.moved r r' (r.descend names) = r'.descend names := by
  simp [FilePath.moved, FilePath.descend]

/-- The problem of a file at a way down from one root is moved to that of the file at the same way
down from the other. -/
theorem Problem.moved_descend (hne : names ≠ []) (file code message : String) :
    Problem.moved r r' ⟨file, (r.descend names).text, code, message⟩ =
      ⟨file, (r'.descend names).text, code, message⟩ := by
  rw [Problem.moved, FilePath.text_descend hne, FilePath.text_descend hne, String.toList_append,
    List.drop_left, String.ofList_toList]

/-- A script sees nothing of its path but the last name. -/
theorem Script.build_of_name (hname : p'.name = p.name) (contents resource : String) :
    Script.build p' contents resource =
      (Script.build p contents resource).map fun s => { s with path := p' } := by
  have hstem : p'.stem = p.stem := by rw [FilePath.stem, FilePath.stem, hname]
  simp only [Script.build, Script.nameOf, ScriptKind.scriptName?, hname, hstem, bind, Except.bind]
  split
  · rfl
  · cases Script.headers contents <;> rfl

/-- Moved scripts are linked as the scripts are. -/
theorem Scene.linked?_moved (scripts : List Script) (resource : Option String) :
    Scene.linked? (scripts.map (.moved r r')) resource =
      (Scene.linked? scripts resource).map (.moved r r') := by
  cases resource with
  | none => rfl
  | some path =>
      rw [Scene.linked?_eq, Scene.linked?_eq, Option.bind_some, Option.bind_some, List.find?_map]
      rfl

/-- A scene sees nothing of its path but the last name, and nothing of the paths of scripts. -/
theorem Scene.build_of_name (hname : p'.name = p.name) (scripts : List Script)
    (contents : String) :
    Scene.build (scripts.map (.moved r r')) p' contents =
      (Scene.build scripts p contents).map fun s =>
        { s with path := p', script := s.script.map (.moved r r') } := by
  have hstem : p'.stem = p.stem := by rw [FilePath.stem, FilePath.stem, hname]
  simp only [Scene.build, Scene.linked?_moved, hname, hstem, bind, Except.bind]
  cases Scene.scriptResource (Text.lines contents.toList) with
  | error fault => rfl
  | ok resource => cases Scene.master (Text.lines contents.toList) <;> rfl

/-- The problems of a moved script are moved. -/
theorem Script.problems_moved {s : Script} (hne : names ≠ []) (hpath : s.path = r.descend names)
    (failFast : Bool) :
    (s.moved r r').problems failFast = (s.problems failFast).map (.moved r r') := by
  have hverdict : (s.moved r r').verdict failFast = s.verdict failFast := rfl
  have hmoved : (s.moved r r').path = r'.descend names := by
    rw [Script.moved, hpath, FilePath.moved_descend]
  simp only [Script.problems, hverdict, hmoved, hpath, List.map_map]
  apply List.map_congr_left
  intro b _
  exact (Problem.moved_descend hne _ _ _).symm

/-- The problems of a moved scene are moved. -/
theorem Scene.problems_moved {s : Scene} (hne : names ≠ []) (hpath : s.path = r.descend names)
    (allowed : List String) (failFast : Bool) :
    (s.moved r r').problems allowed failFast = (s.problems allowed failFast).map (.moved r r') := by
  have hbreaches : (s.moved r r').breaches allowed = s.breaches allowed := by
    apply List.filterMap_congr
    intro rule _
    apply Scene.breach?_congr
    · rfl
    · rfl
    · cases hscript : s.script <;> simp [Scene.moved, hscript, Script.moved, Script.seen]
  have hmoved : (s.moved r r').path = r'.descend names := by
    rw [Scene.moved, hpath, FilePath.moved_descend]
  simp only [Scene.problems, Scene.verdict, hbreaches, hmoved, hpath, List.map_map]
  apply List.map_congr_left
  intro b _
  exact (Problem.moved_descend hne _ _ _).symm

end Moved

namespace Project

/-! ## Building below two roots -/

/-- `Relocated s w w' r r'` says that the same project lies below two roots: walks from them see the
same, and the scripts and scenes that they find can be read and have the same content. -/
structure Relocated (s : Settings) (w w' : World) (r r' : FilePath) : Prop extends
    Discovery.SameBelow s.skipDirs w w' r r' where
  content_eq : ∀ extension ∈ [s.scriptExtension, s.sceneExtension], ∀ names,
    Discovery.IsMatch w ("." ++ extension) s.skipDirs r names →
      ∃ content, w.octets (r.descend names) = .ok content ∧
        w'.octets (r'.descend names) = .ok content

variable {α : Type} {s : Settings} {w w' : World} {r r' p p' : FilePath} {names : List String}
  {content : List UInt8} {report report' : Report}

/-- `Rebuilt move x x'` says that of two files the same was made, up to `move`, or nothing for the
same reason. -/
inductive Rebuilt (move : α → α) : Except FileFault α → Except FileFault α → Prop where
  | ok (model : α) : Rebuilt move (.ok model) (.ok (move model))
  | error {fault fault' : BuildFault} (hcode : fault'.code = fault.code)
      (hwording : fault'.wording = fault.wording) :
      Rebuilt move (.error (.build fault)) (.error (.build fault'))

/-- What is left of both outcomes is the same, up to the move. -/
theorem Rebuilt.to_option {move : α → α} {x x' : Except FileFault α} (h : Rebuilt move x x') :
    x'.toOption = x.toOption.map move := by
  cases h with
  | ok model => rfl
  | error => rfl

/-- A file that can be read is text, or malformed in a way that does not depend on its path. -/
theorem read_of_octets (h : w.octets p = .ok content) (hnul : World.hasNul p = false) :
    read w p = match Text.Utf8.decode content with
      | .error e => .error (.build (.unreadable p.text e.message))
      | .ok cs => .ok (String.ofList (Text.unifyBreaks cs)) := by
  simp only [read, World.readText, World.content, hnul, h, Bool.false_eq_true, if_false]
  cases Text.Utf8.decode content <;> rfl

/-- Files of the same content are read alike. -/
theorem read_rebuilt (h : w.octets p = .ok content) (h' : w'.octets p' = .ok content)
    (hnul : World.hasNul p = false) (hnul' : World.hasNul p' = false) :
    Rebuilt id (read w p) (read w' p') := by
  rw [read_of_octets h hnul, read_of_octets h' hnul']
  cases Text.Utf8.decode content with
  | error e => exact .error rfl rfl
  | ok cs => exact .ok _

/-- Ways down from two roots end in the same name. -/
theorem name_descend_eq (r r' : FilePath) (hne : names ≠ []) :
    (r'.descend names).name = (r.descend names).name := by
  obtain ⟨front, last, rfl⟩ := (List.eq_nil_or_concat' names).resolve_left hne
  rw [FilePath.name_descend_concat, FilePath.name_descend_concat]

/-- The problem of a file is moved with the file. -/
theorem Rebuilt.problem? {move : α → α} {build build' : FilePath → Except FileFault α}
    (hne : names ≠ []) (h : Rebuilt move (build (r.descend names)) (build' (r'.descend names))) :
    problem? build' (r'.descend names) =
      (problem? build (r.descend names)).map (.moved r r') := by
  unfold Project.problem?
  generalize build (r.descend names) = x, build' (r'.descend names) = x' at h
  cases h with
  | ok model => rfl
  | error hcode hwording =>
      simp only [BuildFault.problem, BuildFault.message, Option.map_some, hcode, hwording,
        name_descend_eq r r' hne]
      rw [Problem.moved_descend hne]

/-- A file that is read alike below both roots becomes the same script, up to its path. -/
theorem build_script_rebuilt (start : String) (hne : names ≠ [])
    (h : Rebuilt id (read w (r.descend names)) (read w' (r'.descend names))) :
    Rebuilt (.moved r r') (buildScript w start r (r.descend names))
      (buildScript w' start r' (r'.descend names)) := by
  unfold buildScript
  generalize read w (r.descend names) = x, read w' (r'.descend names) = x' at h
  cases h with
  | error hcode hwording => exact .error hcode hwording
  | ok contents =>
      simp only [Resource.of_file_descend start r hne, Resource.of_file_descend start r' hne, id]
      rw [Script.build_of_name (name_descend_eq r r' hne)]
      cases hbuild : Script.build (r.descend names) contents _ with
      | error fault => exact .error rfl rfl
      | ok script =>
          have hpath : script.path = r.descend names := by
            obtain ⟨_, _, _, _, rfl⟩ := Script.build_eq_ok_iff.1 hbuild
            rfl
          have hmoved : { script with path := r'.descend names } = script.moved r r' := by
            rw [Script.moved, hpath, FilePath.moved_descend]
          simp only [Except.map, hmoved]
          exact .ok script

/-- A file that is read alike below both roots becomes the same scene, up to its path and that of
the script it is linked to. -/
theorem build_scene_rebuilt (scripts : List Script) (hne : names ≠ [])
    (h : Rebuilt id (read w (r.descend names)) (read w' (r'.descend names))) :
    Rebuilt (.moved r r') (buildScene w scripts (r.descend names))
      (buildScene w' (scripts.map (.moved r r')) (r'.descend names)) := by
  unfold buildScene
  generalize read w (r.descend names) = x, read w' (r'.descend names) = x' at h
  cases h with
  | error hcode hwording => exact .error hcode hwording
  | ok contents =>
      simp only [id]
      rw [Scene.build_of_name (name_descend_eq r r' hne)]
      cases hbuild : Scene.build scripts (r.descend names) contents with
      | error fault => exact .error rfl rfl
      | ok scene =>
          have hpath : scene.path = r.descend names := by
            obtain ⟨_, _, _, _, rfl⟩ := Scene.build_eq_ok_iff.1 hbuild
            rfl
          have hmoved : { scene with
              path := r'.descend names, script := scene.script.map (.moved r r') } =
              scene.moved r r' := by
            rw [Scene.moved, hpath, FilePath.moved_descend]
          simp only [Except.map, hmoved]
          exact .ok scene

/-! ## Two reports -/

variable {ways scriptWays sceneWays : List (List String)}

/-- `ReadAlike w w' r r' ways` says that the files at some ways down from two roots are read
alike. -/
def ReadAlike (w w' : World) (r r' : FilePath) (ways : List (List String)) : Prop :=
  ∀ names ∈ ways, names ≠ [] ∧ Rebuilt id (read w (r.descend names)) (read w' (r'.descend names))

/-- Where files are found below one root, the same are found below the other, and they are read
alike. -/
theorem Relocated.found {paths : List FilePath} (h : Relocated s w w' r r') (hw : w.tree.WellFormed)
    (hw' : w'.tree.WellFormed) {extension : String}
    (hextension : extension ∈ [s.scriptExtension, s.sceneExtension])
    (hfound : Discovery.discover w r extension s.skipDirs = .ok paths) :
    ∃ ways, paths = ways.map r.descend ∧
      Discovery.discover w' r' extension s.skipDirs = .ok (ways.map r'.descend) ∧
      ReadAlike w w' r r' ways := by
  obtain ⟨ways, rfl, hfound', hmatch⟩ := h.discover_ok hw hw' hfound
  refine ⟨ways, rfl, hfound', fun names hmem => ?_⟩
  obtain ⟨content, hcontent, hcontent'⟩ :=
    h.content_eq extension hextension names (hmatch names hmem)
  obtain ⟨⟨front, last, rfl, -⟩, -⟩ := hmatch names hmem
  exact ⟨by simp, read_rebuilt hcontent hcontent'
    (Discovery.has_nul_of_mem_discover hw hfound (List.mem_map_of_mem hmem))
    (Discovery.has_nul_of_mem_discover hw' hfound' (List.mem_map_of_mem hmem))⟩

/-- What is made of the files below one root is moved to what is made of those below the other. -/
theorem models_moved {move : α → α} {build build' : FilePath → Except FileFault α}
    (h : ∀ names ∈ ways, Rebuilt move (build (r.descend names)) (build' (r'.descend names))) :
    ((ways.map r'.descend).filterMap fun path => (build' path).toOption) =
      ((ways.map r.descend).filterMap fun path => (build path).toOption).map move := by
  rw [List.filterMap_map, List.filterMap_map, List.map_filterMap]
  apply List.filterMap_congr
  intro names hmem
  exact (h names hmem).to_option

/-- The problems of the files below one root are moved to those of the files below the other. -/
theorem faults_moved {move : α → α} {build build' : FilePath → Except FileFault α}
    (hne : ∀ names ∈ ways, names ≠ [])
    (h : ∀ names ∈ ways, Rebuilt move (build (r.descend names)) (build' (r'.descend names))) :
    (ways.map r'.descend).filterMap (problem? build') =
      ((ways.map r.descend).filterMap (problem? build)).map (.moved r r') := by
  rw [List.filterMap_map, List.filterMap_map, List.map_filterMap]
  apply List.filterMap_congr
  intro names hmem
  exact (h names hmem).problem? (hne names hmem)

/-- Where the files below both roots are read alike, the one report is the other, moved. -/
theorem Composed.report_moved
    (h : Composed w s r (scriptWays.map r.descend) (sceneWays.map r.descend) report)
    (h' : Composed w' s r' (scriptWays.map r'.descend) (sceneWays.map r'.descend) report')
    (hscripts : ReadAlike w w' r r' scriptWays) (hscenes : ReadAlike w w' r r' sceneWays) :
    report' = report.moved r r' := by
  have hbuilt : ∀ names ∈ scriptWays, Rebuilt (.moved r r')
      (buildScript w s.resourceStart r (r.descend names))
      (buildScript w' s.resourceStart r' (r'.descend names)) :=
    fun names hmem => build_script_rebuilt _ (hscripts names hmem).1 (hscripts names hmem).2
  have hmodels : report'.scripts = report.scripts.map (.moved r r') := by
    rw [h.scripts_eq, h'.scripts_eq, models_moved hbuilt]
  have hlinked : ∀ names ∈ sceneWays, Rebuilt (.moved r r')
      (buildScene w report.scripts (r.descend names))
      (buildScene w' report'.scripts (r'.descend names)) := by
    intro names hmem
    rw [hmodels]
    exact build_scene_rebuilt _ (hscenes names hmem).1 (hscenes names hmem).2
  have hmodels' : report'.scenes = report.scenes.map (.moved r r') := by
    rw [h.scenes_eq, h'.scenes_eq, models_moved hlinked]
  have hgeneral : report'.general = report.general.map (.moved r r') := by
    rw [h.general_eq, h'.general_eq, List.map_append,
      faults_moved (fun names hmem => (hscripts names hmem).1) hbuilt,
      faults_moved (fun names hmem => (hscenes names hmem).1) hlinked]
  have hscript : report'.script = report.script.map (.moved r r') := by
    rw [h.script_eq, h'.script_eq, hmodels, List.flatMap_map, List.map_flatMap]
    apply List.flatMap_congr
    intro script hmem
    obtain ⟨names, hnames, hpath⟩ := List.mem_map.1 (h.script_built hmem).1
    exact Script.problems_moved (hscripts names hnames).1 hpath.symm _
  have hscene : report'.scene = report.scene.map (.moved r r') := by
    rw [h.scene_eq, h'.scene_eq, hmodels', List.flatMap_map, List.map_flatMap]
    apply List.flatMap_congr
    intro scene hmem
    obtain ⟨names, hnames, hpath⟩ := List.mem_map.1 (h.scene_built hmem).1
    exact Scene.problems_moved (hscenes names hnames).1 hpath.symm _ _
  have hroot := h'.root_eq
  obtain ⟨root, scripts, scenes, general, script, scene⟩ := report'
  dsimp only at hroot hmodels hmodels' hgeneral hscript hscene
  rw [hroot, hmodels, hmodels', hgeneral, hscript, hscene]
  rfl

/-- Every problem of a report gives the path of a file that was found. -/
theorem Composed.path_of_problem {scriptPaths scenePaths : List FilePath} {problem : Problem}
    (h : Composed w s r scriptPaths scenePaths report)
    (hproblem : problem ∈ report.general ++ report.script ++ report.scene) :
    ∃ path ∈ scriptPaths ++ scenePaths, problem.path = path.text := by
  rw [List.mem_append, List.mem_append] at hproblem
  rcases hproblem with (hgeneral | hscript) | hscene
  · rw [h.general_eq, List.mem_append, List.mem_filterMap, List.mem_filterMap] at hgeneral
    rcases hgeneral with ⟨path, hmem, hfault⟩ | ⟨path, hmem, hfault⟩
    · obtain ⟨fault, _, rfl⟩ := problem?_eq_some_iff.1 hfault
      exact ⟨path, List.mem_append_left _ hmem, rfl⟩
    · obtain ⟨fault, _, rfl⟩ := problem?_eq_some_iff.1 hfault
      exact ⟨path, List.mem_append_right _ hmem, rfl⟩
  · rw [h.script_eq, List.mem_flatMap] at hscript
    obtain ⟨script, hmem, hscript⟩ := hscript
    obtain ⟨breach, _, rfl⟩ := List.mem_map.1 hscript
    exact ⟨script.path, List.mem_append_left _ (h.script_built hmem).1, rfl⟩
  · rw [h.scene_eq, List.mem_flatMap] at hscene
    obtain ⟨scene, hmem, hscene⟩ := hscene
    obtain ⟨breach, _, rfl⟩ := List.mem_map.1 hscene
    exact ⟨scene.path, List.mem_append_right _ (h.scene_built hmem).1, rfl⟩

/-- A project of which the files are found is checked, and its report is composed of them. -/
theorem check_of_found {scriptPaths scenePaths : List FilePath} (hw : w.tree.WellFormed)
    (hscripts : Discovery.discover w r s.scriptExtension s.skipDirs = .ok scriptPaths)
    (hscenes : Discovery.discover w r s.sceneExtension s.skipDirs = .ok scenePaths) :
    ∃ report, check w s (some r) = .ok report ∧ Composed w s r scriptPaths scenePaths report := by
  have hfound : Discovery.discover w (rootOf s (some r)) s.scriptExtension s.skipDirs =
      .ok scriptPaths := hscripts
  obtain ⟨_, report, -, hcheck, -⟩ := check_ok_accounts hw hfound
  obtain ⟨paths, paths', hcomposed⟩ := composed_of_check hcheck
  obtain rfl : paths = scriptPaths := Except.ok.inj (hcomposed.script_paths.symm.trans hscripts)
  obtain rfl : paths' = scenePaths := Except.ok.inj (hcomposed.scene_paths.symm.trans hscenes)
  exact ⟨report, hcheck, hcomposed⟩

/-- The paths of a report lead some way down from its root, and are moved to the same way down from
another. -/
theorem Composed.paths_moved (r' : FilePath)
    (h : Composed w s r (scriptWays.map r.descend) (sceneWays.map r.descend) report)
    (hscripts : ∀ names ∈ scriptWays, names ≠ []) (hscenes : ∀ names ∈ sceneWays, names ≠ []) :
    (∀ script ∈ report.scripts, ∃ names,
      script.path = r.descend names ∧ (script.moved r r').path = r'.descend names) ∧
    (∀ scene ∈ report.scenes, ∃ names,
      scene.path = r.descend names ∧ (scene.moved r r').path = r'.descend names) ∧
    ∀ problem ∈ report.general ++ report.script ++ report.scene, ∃ names,
      problem.path = (r.descend names).text ∧
        (problem.moved r r').path = (r'.descend names).text := by
  refine ⟨fun script hmem => ?_, fun scene hmem => ?_, fun problem hmem => ?_⟩
  · obtain ⟨names, _, hpath⟩ := List.mem_map.1 (h.script_built hmem).1
    exact ⟨names, hpath.symm, by rw [Script.moved, ← hpath, FilePath.moved_descend]⟩
  · obtain ⟨names, _, hpath⟩ := List.mem_map.1 (h.scene_built hmem).1
    exact ⟨names, hpath.symm, by rw [Scene.moved, ← hpath, FilePath.moved_descend]⟩
  · obtain ⟨path, hpath, htext⟩ := h.path_of_problem hmem
    rw [← List.map_append] at hpath
    obtain ⟨names, hnames, rfl⟩ := List.mem_map.1 hpath
    have hne : names ≠ [] :=
      (List.mem_append.1 hnames).elim (hscripts names) (hscenes names)
    obtain ⟨file, text, code, message⟩ := problem
    dsimp only at htext
    rw [htext]
    exact ⟨names, rfl, by rw [Problem.moved_descend hne]⟩

/-- The same project below two roots is checked alike. If no directory that the walks come to lies
deeper than calls may nest, both checks have a report, and the one is the other with its root and
its paths moved: every path in it leads some way down from the first root, and is moved to the same
way down from the second. Otherwise both checks fail, and for the same reason. -/
theorem check_relocated (hw : w.tree.WellFormed) (hw' : w'.tree.WellFormed)
    (h : Relocated s w w' r r') :
    ((∀ names, ¬ Discovery.Stops w r s.skipDirs names (.tooDeep w.host.tooDeep)) →
      ∃ report, check w s (some r) = .ok report ∧ check w' s (some r') = .ok (report.moved r r') ∧
        (∀ script ∈ report.scripts, ∃ names,
          script.path = r.descend names ∧ (script.moved r r').path = r'.descend names) ∧
        (∀ scene ∈ report.scenes, ∃ names,
          scene.path = r.descend names ∧ (scene.moved r r').path = r'.descend names) ∧
        ∀ problem ∈ report.general ++ report.script ++ report.scene, ∃ names,
          problem.path = (r.descend names).text ∧
            (problem.moved r r').path = (r'.descend names).text) ∧
    ((∃ names, Discovery.Stops w r s.skipDirs names (.tooDeep w.host.tooDeep)) →
      check w s (some r) = .error (.discovery (.tooDeep w.host.tooDeep)) ∧
        check w' s (some r') = .error (.discovery (.tooDeep w.host.tooDeep))) := by
  cases hfound : Discovery.discover w r s.scriptExtension s.skipDirs with
  | error halt =>
      obtain ⟨rfl, ⟨names, hstops⟩, hfound'⟩ := h.discover_error hw hw' hfound
      exact ⟨fun hclear => absurd hstops (hclear names),
        fun _ => ⟨check_of_discover_error hfound, check_of_discover_error hfound'⟩⟩
  | ok scriptPaths =>
      refine ⟨fun _ => ?_,
        fun ⟨_, hstops⟩ => absurd hstops (Discovery.not_stops_of_discover hw hfound)⟩
      obtain ⟨scenePaths, hlinked⟩ := Discovery.discover_ok_of_ok s.sceneExtension hfound
      obtain ⟨scriptWays, rfl, hfound', hscripts⟩ := h.found hw hw' (by simp) hfound
      obtain ⟨sceneWays, rfl, hlinked', hscenes⟩ := h.found hw hw' (by simp) hlinked
      obtain ⟨report, hcheck, hcomposed⟩ := check_of_found hw hfound hlinked
      obtain ⟨report', hcheck', hcomposed'⟩ := check_of_found hw' hfound' hlinked'
      rw [hcomposed.report_moved hcomposed' hscripts hscenes] at hcheck'
      exact ⟨report, hcheck, hcheck', hcomposed.paths_moved r'
        (fun names hmem => (hscripts names hmem).1) fun names hmem => (hscenes names hmem).1⟩

/-! ## A project without links -/

section WithoutLinks

variable {t u : Tree} {place place' front : List String} {entries : List (String × Tree)}
  {last : String}

/-- What lies in a tree without links is no link. -/
theorem is_link_of_lookup (hlink : ∀ names target, t.lookup names ≠ some (.link target))
    (hu : t.lookup names = some u) : u.isLink = false := by
  cases u with
  | link target => exact absurd hu (hlink names target)
  | file => rfl
  | directory => rfl

/-- The status of an entry of a tree without links is told by the tree, if the system looks. -/
theorem status_descend (hw : w.tree.WellFormed) (hfind : w.find r = .ok (place, t))
    (hlink : ∀ names target, t.lookup names ≠ some (.link target))
    (hlook : ∀ names u, t.lookup names = some u → w.refusal? (r.descend names) = none)
    (hfront : t.lookup front = some (.directory entries))
    (hnames : ∀ name ∈ front, IsEntryName name) (hlast : IsEntryName last) :
    Discovery.status w (r.descend (front ++ [last])) =
      .ok ((t.lookup (front ++ [last])).map fun u => (u.isDirectory, u.isDirectory)) := by
  cases hu : t.lookup (front ++ [last]) with
  | none =>
      cases hentry : w.findEntry (r.descend (front ++ [last])) with
      | error fault => simp [Discovery.status, hentry]
      | ok found =>
          rw [World.lookup_of_find_entry hfind hfront hnames hlast hentry] at hu
          cases hu
  | some u =>
      have hall : ∀ name ∈ front ++ [last], IsEntryName name := by
        rw [List.forall_mem_append]
        exact ⟨hnames, by simpa using hlast⟩
      have hnul := Discovery.has_nul_descend hw hfind hall
      have hentry := World.find_entry_descend hfind (by simp) hall hu
      have hthere := World.find_descend hfind hall hu (is_link_of_lookup hlink hu)
      have htold : Discovery.untold? w (r.descend (front ++ [last])) = none := by
        rw [Discovery.untold?_eq hnul hentry, hlook _ u hu, hthere]
        rfl
      exact Discovery.status_eq_some_iff.2 ⟨⟨_, u, hentry, rfl⟩, htold,
        Discovery.has_directory_of_told_find htold hnul hthere⟩

/-- A directory that the system looks at is found. -/
theorem has_directory_of_find (hw : w.tree.WellFormed) (hfind : w.find r = .ok (place, t))
    (hdirectory : t.isDirectory = true) (hlook : w.refusal? r = none) :
    w.hasDirectory r = .ok true := by
  have hnul : World.hasNul (r.descend []) = false :=
    Discovery.has_nul_descend hw hfind (by simp)
  rw [FilePath.descend_nil] at hnul
  exact World.has_directory_eq_true_iff.2 ⟨hnul, hlook, place, t, hfind, hdirectory⟩

/-- A file that may be read, and at which the system looks, is read. -/
theorem octets_of_find (hfind : w.find p = .ok (place, .file content))
    (hread : p.text ∉ w.denied.read) (hlook : w.refusal? p = none) :
    w.octets p = .ok content := by
  have hshort : ¬ World.pathLimit ≤ p.text.utf8ByteSize := by
    intro hlong
    rw [World.refusal?, if_pos hlong] at hlook
    split at hlook <;> cases hlook
  simp [World.octets_eq, hread, hshort, hfind, World.contentOf]

/-- A tree without links may be checked from any two roots that lead to it, if the system looks at
everything in it, and neither listing nor reading is denied. -/
theorem relocated_of_find (hw : w.tree.WellFormed) (hw' : w'.tree.WellFormed)
    (hhost : w'.host = w.host) (hdirectory : t.isDirectory = true)
    (hlink : ∀ names target, t.lookup names ≠ some (.link target))
    (hfind : w.find r = .ok (place, t)) (hfind' : w'.find r' = .ok (place', t))
    (hkept : r.name ∉ s.skipDirs) (hkept' : r'.name ∉ s.skipDirs)
    (hlook : ∀ names u, t.lookup names = some u → w.refusal? (r.descend names) = none)
    (hlook' : ∀ names u, t.lookup names = some u → w'.refusal? (r'.descend names) = none)
    (hdenied : w.denied.list = [] ∧ w.denied.read = [])
    (hdenied' : w'.denied.list = [] ∧ w'.denied.read = []) :
    Relocated s w w' r r' where
  host_eq := hhost
  root_directory :=
    ⟨has_directory_of_find hw hfind hdirectory (by simpa using hlook [] t rfl),
      has_directory_of_find hw' hfind' hdirectory (by simpa using hlook' [] t rfl)⟩
  root_kept := ⟨hkept, hkept'⟩
  status_eq := by
    intro front last hentered hlast
    have ht := World.find_well_formed hw hfind
    obtain ⟨entries, hreach, _⟩ := (Discovery.entered_iff ht hfind hdirectory).1 hentered
    obtain ⟨hnames, hfront⟩ := hreach.lookup ht
    exact ⟨_, status_descend hw hfind hlink hlook hfront hnames hlast,
      status_descend hw' hfind' hlink hlook' hfront hnames hlast⟩
  listed := by simp [hdenied.1, hdenied'.1]
  content_eq := by
    intro extension _ names hmatch
    have ht := World.find_well_formed hw hfind
    obtain ⟨hmet, hno, -⟩ := hmatch
    obtain ⟨-, u, hreach⟩ := (Discovery.met_iff ht hfind hdirectory).1 hmet
    obtain ⟨hnames, hu⟩ := hreach.lookup ht
    have hfile := is_link_of_lookup hlink hu
    have hthere := World.find_descend hfind hnames hu hfile
    have hthere' := World.find_descend hfind' hnames hu hfile
    cases u with
    | link target => cases hfile
    | directory entries =>
        have hyes : w.hasDirectory (r.descend names) = .ok true :=
          has_directory_of_find hw hthere rfl (hlook names _ hu)
        rw [hno] at hyes
        cases hyes
    | file content =>
        exact ⟨content, octets_of_find hthere (by simp [hdenied.2]) (hlook names _ hu),
          octets_of_find hthere' (by simp [hdenied'.2]) (hlook' names _ hu)⟩

end WithoutLinks

/-- `insideBoxWorld` is the world of the project with one script and one scene, seen from inside the
project. -/
def insideBoxWorld : World :=
  { boxWorld [] with working := ["game"] }

/-- The project with one script and one scene holds two files and nothing else. -/
theorem lookup_box_project {names : List String} {u : Tree}
    (h : (boxProject []).lookup names = some u) :
    names ∈ [[], ["Box.gd"], ["box.tscn"]] := by
  have hfile (octets : List UInt8) (rest : List String)
      (hrest : (Tree.file octets).lookup rest = some u) : rest = [] := by
    cases rest with
    | nil => rfl
    | cons name rest => cases hrest
  cases names with
  | nil => simp
  | cons name rest =>
      simp only [boxProject, Tree.lookup, Tree.child?] at h
      split at h
      · next below hbelow =>
          by_cases hscript : "Box.gd" = name
          · rw [if_pos hscript] at hbelow
            cases hbelow
            simp [← hscript, hfile _ _ h]
          rw [if_neg hscript] at hbelow
          by_cases hscene : "box.tscn" = name
          · rw [if_pos hscene] at hbelow
            cases hbelow
            simp [← hscene, hfile _ _ h]
          · rw [if_neg hscene] at hbelow
            cases hbelow
      · cases h

/-- The system looks at everything in the project, under either name of its root. -/
theorem refusal?_box {names : List String} {u : Tree}
    (h : (boxProject []).lookup names = some u) :
    (boxWorld []).refusal? (FilePath.descend ⟨.root, ["game"]⟩ names) = none ∧
      insideBoxWorld.refusal? (FilePath.descend ⟨.relative, []⟩ names) = none := by
  have hnames := lookup_box_project h
  simp only [List.mem_cons, List.not_mem_nil, or_false] at hnames
  rcases hnames with rfl | rfl | rfl <;> decide +kernel

/-- The project with one script and one scene is checked under its full path and from inside, where
its root is written as a point. -/
theorem check_relocated_box :
    (boxWorld []).tree.WellFormed ∧ insideBoxWorld.tree.WellFormed ∧
    Relocated (Settings.default ⟨.root, ["game"]⟩) (boxWorld []) insideBoxWorld ⟨.root, ["game"]⟩
      ⟨.relative, []⟩ ∧
    ∃ report,
      check (boxWorld []) (Settings.default ⟨.root, ["game"]⟩) (some ⟨.root, ["game"]⟩) =
        .ok report ∧
      check insideBoxWorld (Settings.default ⟨.root, ["game"]⟩) (some ⟨.relative, []⟩) =
        .ok (report.moved ⟨.root, ["game"]⟩ ⟨.relative, []⟩) ∧
      report.script.map Problem.path = ["/game/Box.gd"] ∧
      (report.moved ⟨.root, ["game"]⟩ ⟨.relative, []⟩).script.map Problem.path = ["Box.gd"] := by
  have hw : (boxWorld []).tree.WellFormed := box_world_well_formed []
  have hw' : insideBoxWorld.tree.WellFormed := hw
  have hfind : (boxWorld []).find ⟨.root, ["game"]⟩ = .ok (["game"], boxProject []) := rfl
  have hfind' : insideBoxWorld.find ⟨.relative, []⟩ = .ok (["game"], boxProject []) := rfl
  have hrelocated : Relocated (Settings.default ⟨.root, ["game"]⟩) (boxWorld []) insideBoxWorld
      ⟨.root, ["game"]⟩ ⟨.relative, []⟩ :=
    relocated_of_find hw hw' rfl rfl
      (fun names target => lookup_box_world_ne_link [] ("game" :: names) target) hfind hfind'
      (by decide) (by decide) (fun _ _ h => (refusal?_box h).1) (fun _ _ h => (refusal?_box h).2)
      ⟨rfl, rfl⟩ ⟨rfl, rfl⟩
  have hcheck : check (boxWorld []) (Settings.default ⟨.root, ["game"]⟩)
      (some ⟨.root, ["game"]⟩) = .ok _ := check_box "" rfl
  obtain ⟨report, hreport, hmoved, -⟩ := (check_relocated hw hw' hrelocated).1
    fun _ => Discovery.not_stops_of_discover hw (discover_box [] "gd")
  obtain rfl := Except.ok.inj (hreport.symm.trans hcheck)
  exact ⟨hw, hw', hrelocated, _, hcheck, hmoved, by decide, by decide⟩

end Project

end SceneLint
