import SceneLint.Path.Resource
import SceneLint.Proofs.Text.Search
import SceneLint.Proofs.World.WellFormed

/-!
# Paths below a root

`FilePath.Below root p` says that `p` leads from `root` through one or more entry names. Such a
path has a resource path (`of_file_of_below`), can be read if the root can be reached
(`has_nul_of_below`), and is told apart from every other by its text (`text_injective_of_below`).
`descend root names` is the path itself, and `text_descend` how it is written.
-/

namespace SceneLint.FilePath

/-- `Below root p` says that `p` leads from `root` through one or more entry names. -/
def Below (root p : FilePath) : Prop :=
  ∃ names, names ≠ [] ∧ (∀ name ∈ names, IsEntryName name) ∧
    p = ⟨root.anchor, root.parts ++ names⟩

variable {root p q : FilePath}

/-- A child of the root is below it. -/
theorem below_child {name : String} (h : IsEntryName name) : Below root (root.child name) :=
  ⟨[name], by simp, by simpa using h, rfl⟩

/-- What is below a child of the root is below the root. -/
theorem Below.of_child {name : String} (hname : IsEntryName name)
    (h : Below (root.child name) p) : Below root p := by
  obtain ⟨names, _, hnames, rfl⟩ := h
  refine ⟨name :: names, by simp, ?_, by simp [child]⟩
  intro other hother
  rcases List.mem_cons.1 hother with rfl | hother
  · exact hname
  · exact hnames other hother

/-- A path below a root is not the root. -/
theorem Below.ne (h : Below root p) : p ≠ root := by
  obtain ⟨names, hne, _, rfl⟩ := h
  intro heq
  have hparts := congrArg FilePath.parts heq
  exact hne (by simpa using hparts)

/-- The names of a path at or below a root start with those of the root. -/
theorem parts_of_eq_or_below (h : p = root ∨ Below root p) :
    ∃ more, p.parts = root.parts ++ more := by
  rcases h with rfl | ⟨names, _, _, rfl⟩
  · exact ⟨[], by simp⟩
  · exact ⟨names, rfl⟩

/-- The text of a path below a root is never that of the empty path. -/
theorem Below.text_eq (h : Below root p) : p.text = p.bareText := by
  obtain ⟨names, hne, _, rfl⟩ := h
  simp [text, hne]

/-- A path below a root has a resource path. -/
theorem of_file_of_below (start : String) (h : Below root p) :
    ∃ resource, Resource.ofFile start p root = .ok resource := by
  obtain ⟨names, _, _, rfl⟩ := h
  refine ⟨start ++ Resource.slashed (text ⟨.relative, names⟩), ?_⟩
  simp [Resource.ofFile, relativeTo, Except.map]

/-- No NUL character comes into a path below a root that holds none. -/
theorem has_nul_of_below (hroot : ∀ name ∈ root.parts, Char.ofNat 0 ∉ name.toList)
    (h : Below root p) : World.hasNul p = false := by
  obtain ⟨names, _, hnames, rfl⟩ := h
  simp only [World.hasNul, List.any_eq_false, List.contains_iff_mem]
  intro name hname
  rcases List.mem_append.1 hname with hname | hname
  · exact hroot name hname
  · exact (hnames name hname).no_nul

/-- Paths below one root that are written alike are the same. -/
theorem text_injective_of_below (hp : Below root p) (hq : Below root q) (h : p.text = q.text) :
    p = q := by
  rw [hp.text_eq, hq.text_eq] at h
  obtain ⟨a, ha, hsa, rfl⟩ := hp
  obtain ⟨b, hb, hsb, rfl⟩ := hq
  have hjoined : "/".intercalate (root.parts ++ a) = "/".intercalate (root.parts ++ b) :=
    String.append_right_inj _ |>.1 h
  have hnames : "/".intercalate a = "/".intercalate b := by
    by_cases hroot : root.parts = []
    · simpa [hroot] using hjoined
    · rw [Text.intercalate_append "/" hroot ha, Text.intercalate_append "/" hroot hb] at hjoined
      exact String.append_right_inj _ |>.1 hjoined
  rw [Text.intercalate_injective ha hb (fun n hn => (hsa n hn).no_slash)
    (fun n hn => (hsb n hn).no_slash) hnames]

/-! ## Going down -/

/-- `descend p names` leads from `p` through `names`. -/
def descend (p : FilePath) (names : List String) : FilePath :=
  ⟨p.anchor, p.parts ++ names⟩

@[simp] theorem descend_nil : p.descend [] = p := by
  simp [descend]

@[simp] theorem child_descend (names : List String) (name : String) :
    (p.descend names).child name = p.descend (names ++ [name]) := by
  simp [descend, child]

@[simp] theorem name_descend_concat (names : List String) (name : String) :
    (p.descend (names ++ [name])).name = name := by
  simp [descend, FilePath.name, List.getLastD_eq_getLast?]

/-- Ways down from one path lead to one path only if they are the same. -/
theorem descend_injective {a b : List String} (h : p.descend a = p.descend b) : a = b :=
  List.append_cancel_left (congrArg FilePath.parts h)

/-- A path is led to by one path and one name only. -/
theorem child_injective {a b : String} (h : p.child a = q.child b) : p = q ∧ a = b := by
  obtain ⟨anchor, parts⟩ := p
  obtain ⟨anchor', parts'⟩ := q
  simp only [child, mk.injEq] at h
  obtain ⟨rfl, hparts⟩ := h
  obtain ⟨rfl, hlast⟩ := List.append_inj' hparts rfl
  exact ⟨rfl, (List.cons.inj hlast).1⟩

/-- `lead root` is how every path below `root` begins when it is written. -/
def lead (root : FilePath) : String :=
  root.anchor.text ++ if root.parts.isEmpty then "" else "/".intercalate root.parts ++ "/"

/-- A way down is written behind the lead, its names divided by slashes. -/
theorem text_descend {names : List String} (hne : names ≠ []) :
    (root.descend names).text = root.lead ++ "/".intercalate names := by
  have htext : (root.descend names).text = (root.descend names).bareText := by
    simp [text, descend, hne]
  rw [htext, bareText, lead, descend]
  by_cases hroot : root.parts = []
  · simp [hroot]
  · simp [hroot, Text.intercalate_append "/" hroot hne, String.append_assoc]

end SceneLint.FilePath
