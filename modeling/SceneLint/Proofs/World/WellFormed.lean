import SceneLint.World.Basic

/-!
# Trees that a file system can hold

`Tree.WellFormed` is what every file system grants: the entries of a directory have distinct names,
and each name is non-empty, none of the two reserved names, free of slashes and of the NUL
character, and not longer than the system allows. Whatever a path leads to in such a tree is such a
tree (`find_well_formed`), and a path that leads somewhere holds no NUL character itself
(`no_nul_of_find`), because every name of it is reserved or the name of an entry.
-/

namespace SceneLint

/-- `IsEntryName name` says that a directory may hold an entry of this name. -/
structure IsEntryName (name : String) : Prop where
  ne_empty : name ≠ ""
  ne_point : name ≠ "."
  ne_points : name ≠ ".."
  no_slash : '/' ∉ name.toList
  no_nul : Char.ofNat 0 ∉ name.toList
  short : name.utf8ByteSize ≤ World.nameLimit

/-- `IsEntryName` is decided by its six conditions. -/
instance (name : String) : Decidable (IsEntryName name) :=
  decidable_of_iff (name ≠ "" ∧ name ≠ "." ∧ name ≠ ".." ∧ '/' ∉ name.toList ∧
      Char.ofNat 0 ∉ name.toList ∧ name.utf8ByteSize ≤ World.nameLimit)
    ⟨fun ⟨h₁, h₂, h₃, h₄, h₅, h₆⟩ => ⟨h₁, h₂, h₃, h₄, h₅, h₆⟩,
      fun h => ⟨h.ne_empty, h.ne_point, h.ne_points, h.no_slash, h.no_nul, h.short⟩⟩

namespace Tree

/-- What holds of files and links, and of a directory once it holds of its entries, holds of every
tree. -/
@[elab_as_elim]
theorem ind {motive : Tree → Prop} (file : ∀ content, motive (.file content))
    (link : ∀ target, motive (.link target))
    (directory : ∀ entries, (∀ entry ∈ entries, motive entry.2) → motive (.directory entries)) :
    ∀ t, motive t
  | .file content => file content
  | .link target => link target
  | .directory entries => directory entries fun entry _ => ind file link directory entry.2
termination_by t => sizeOf t
decreasing_by
  next hentry =>
    have hlt := List.sizeOf_lt_of_mem hentry
    obtain ⟨name, below⟩ := entry
    simp only [Prod.mk.sizeOf_spec, Tree.directory.sizeOf_spec] at hlt ⊢
    omega

/-- `WellFormed t` says that a file system can hold the tree `t`. -/
inductive WellFormed : Tree → Prop where
  | file (content) : WellFormed (.file content)
  | link (target) : WellFormed (.link target)
  | directory (entries : List (String × Tree)) :
      (entries.map (·.1)).Nodup → (∀ entry ∈ entries, IsEntryName entry.1) →
      (∀ entry ∈ entries, WellFormed entry.2) → WellFormed (.directory entries)

variable {t below : Tree} {entries : List (String × Tree)} {name : String}

/-- A directory is well formed when its names are and its entries are. -/
theorem well_formed_directory_iff : WellFormed (.directory entries) ↔
    (entries.map (·.1)).Nodup ∧ (∀ entry ∈ entries, IsEntryName entry.1) ∧
      ∀ entry ∈ entries, WellFormed entry.2 := by
  constructor
  · intro h
    cases h with
    | directory _ hnodup hnames hentries => exact ⟨hnodup, hnames, hentries⟩
  · intro hparts
    obtain ⟨hnodup, hnames, hentries⟩ := hparts
    exact .directory entries hnodup hnames hentries

/-- What is found under a name is an entry of that name. -/
theorem mem_of_child? (h : child? name entries = some below) : (name, below) ∈ entries := by
  induction entries with
  | nil => cases h
  | cons entry entries ih =>
      obtain ⟨n, t⟩ := entry
      by_cases hn : n = name
      · simp only [child?, hn, ↓reduceIte, Option.some.injEq] at h
        simp [hn, h]
      · simp only [child?, hn, ↓reduceIte] at h
        exact List.mem_cons_of_mem _ (ih h)

/-- The names of a well-formed directory are names of entries. -/
theorem WellFormed.name_ok (h : WellFormed (.directory entries))
    (hmem : (name, below) ∈ entries) : IsEntryName name :=
  (well_formed_directory_iff.1 h).2.1 _ hmem

/-- The entries of a well-formed directory are well formed. -/
theorem WellFormed.entry (h : WellFormed (.directory entries))
    (hmem : (name, below) ∈ entries) : WellFormed below :=
  (well_formed_directory_iff.1 h).2.2 _ hmem

/-- The names of a well-formed directory are distinct. -/
theorem WellFormed.names_nodup (h : WellFormed (.directory entries)) :
    (entries.map (·.1)).Nodup :=
  (well_formed_directory_iff.1 h).1

/-- What lies at a list of names in a well-formed tree is well formed. -/
theorem WellFormed.lookup {names : List String} (h : WellFormed t)
    (hfound : Tree.lookup names t = some below) : WellFormed below := by
  fun_induction Tree.lookup names t with
  | case1 t =>
      cases hfound
      exact h
  | case2 name names entries child hchild ih => exact ih (h.entry (mem_of_child? hchild)) hfound
  | case3 => cases hfound
  | case4 => cases hfound

end Tree

namespace World

/-- `IsWayName name` says that a path may pass through `name`: it is one of the two reserved names
or the name of an entry. -/
def IsWayName (name : String) : Prop :=
  name = "." ∨ name = ".." ∨ IsEntryName name

/-- A name that a path may pass through holds no NUL character. -/
theorem IsWayName.no_nul {name : String} (h : IsWayName name) : Char.ofNat 0 ∉ name.toList := by
  rcases h with rfl | rfl | h
  · decide
  · decide
  · exact h.no_nul

variable {tree : Tree}

/-- What is known of the names on a way and of what it leads to, one case per kind of step: every
name that was passed is a way name, and the tree that was found is well formed. -/
def Step.Sound (names : List String) : Step → Prop
  | .found _ t => (∀ name ∈ names, IsWayName name) ∧ t.WellFormed
  | .refused _ => True
  | .link _ _ rest => ∃ passed, names = passed ++ rest ∧ ∀ name ∈ passed, IsWayName name

/-- A step stays sound when a way name is put in front of the names. -/
theorem Step.Sound.cons {name : String} {names : List String} {step : Step}
    (hname : IsWayName name) (h : step.Sound names) : step.Sound (name :: names) := by
  cases step with
  | found place t =>
      refine ⟨?_, h.2⟩
      intro other hother
      rcases List.mem_cons.1 hother with rfl | hother
      · exact hname
      · exact h.1 other hother
  | refused fault => trivial
  | link place target rest =>
      obtain ⟨passed, rfl, hpassed⟩ := h
      refine ⟨name :: passed, rfl, ?_⟩
      intro other hother
      rcases List.mem_cons.1 hother with rfl | hother
      · exact hname
      · exact hpassed other hother

/-- Following names up to the first link is sound in a well-formed tree. -/
theorem walk_sound (follow : Bool) (htree : tree.WellFormed) (place names : List String) :
    (walk tree follow place names).Sound names := by
  fun_induction walk tree follow place names with
  | case1 place t hfound => exact ⟨by simp, htree.lookup hfound⟩
  | case2 => trivial
  | case3 place names entries hplace ih => exact ih.cons (.inr (.inl rfl))
  | case4 place names entries hplace hne ih => exact ih.cons (.inl rfl)
  | case5 => trivial
  | case6 => trivial
  | case7 place name names entries hplace hne hne' hshort target hchild hend =>
      -- A link at the end of a way that does not follow it is what the way leads to.
      have hname := (htree.lookup hplace).name_ok (Tree.mem_of_child? hchild)
      simp only [Bool.and_eq_true, List.isEmpty_iff] at hend
      obtain ⟨rfl, _⟩ := hend
      exact ⟨by simpa using .inr (.inr hname), .link target⟩
  | case8 place name names entries hplace hne hne' hshort target hchild hend =>
      have hname := (htree.lookup hplace).name_ok (Tree.mem_of_child? hchild)
      exact ⟨[name], rfl, by simpa using .inr (.inr hname)⟩
  | case9 place name names entries hplace hne hne' hshort below hchild hlink ih =>
      exact ih.cons (.inr (.inr ((htree.lookup hplace).name_ok (Tree.mem_of_child? hlink))))
  | case10 => trivial
  | case11 => trivial

/-- A way that leads somewhere in a well-formed tree passes through way names only, and leads to a
well-formed tree. -/
theorem walk_links_sound {follow : Bool} (htree : tree.WellFormed) {links : Nat}
    {place names found : List String} {t : Tree}
    (h : walkLinks tree follow links place names = .ok (found, t)) :
    (∀ name ∈ names, IsWayName name) ∧ t.WellFormed := by
  fun_induction walkLinks tree follow links place names with
  | case1 links place names found' t' hstep =>
      cases h
      have hsound := walk_sound follow htree place names
      rw [hstep] at hsound
      exact hsound
  | case2 => cases h
  | case3 => cases h
  | case4 => cases h
  | case5 place names place' target rest hstep links hne ih =>
      have hsound := walk_sound follow htree place names
      rw [hstep] at hsound
      obtain ⟨passed, rfl, hpassed⟩ := hsound
      -- The way goes on with the names of the target and then the rest; only the rest matters here.
      obtain ⟨hrest, ht⟩ := ih h
      refine ⟨?_, ht⟩
      intro name hname
      rcases List.mem_append.1 hname with hname | hname
      · exact hpassed name hname
      · exact hrest name (List.mem_append_right _ hname)

variable {w : World} {p : FilePath} {place : List String} {t : Tree}

/-- What a path leads to is well formed. -/
theorem find_well_formed (hw : w.tree.WellFormed) (h : w.find p = .ok (place, t)) :
    t.WellFormed :=
  (walk_links_sound hw h).2

/-- A path that leads somewhere holds no NUL character. -/
theorem no_nul_of_find (hw : w.tree.WellFormed) (h : w.find p = .ok (place, t)) :
    ∀ name ∈ p.parts, Char.ofNat 0 ∉ name.toList :=
  fun name hname => ((walk_links_sound hw h).1 name hname).no_nul

end World

end SceneLint
