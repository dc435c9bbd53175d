import Mathlib.Data.List.Induction
import Mathlib.Data.List.Sort
import Mathlib.Data.String.Basic
import SceneLint.Proofs.Project.Discovery
import SceneLint.Proofs.World.Descent

/-!
# What discovery finds, told by asking the file system

`IsEntered` says which directories a walk enters, `IsMet` to which entries it comes and `IsMatch`
which files it finds, all by asking what lies at a path, and not by the tree that the walk recurs
on. `Obstacle` says what stops a walk. `discover_exact` joins the two sides: discovery fails for an
obstacle and for nothing else, and otherwise finds the matches, each once and in the order of their
names. An obstacle is not always a fault that discovery reports: the system may not tell what an
entry is (`discover_long_target`).

`tour_pairwise` is where the order comes from, `entered_iff`, `met_iff` and `stops_iff` say that
asking the file system comes to the same as touring the tree, and `descends_acc` says that links
cannot make a walk go down for ever, because the directories it enters are those of the tree.
-/

namespace SceneLint

/-- `World.IsRealDirectory w p` says that a directory lies at a path, and not a link to one. -/
def World.IsRealDirectory (w : World) (p : FilePath) : Prop :=
  ∃ place entries, w.findEntry p = .ok (place, .directory entries)

namespace Discovery

/-- `IsEntered w skip root names` says that a walk from `root` enters the directory at `names`: no
name on the way is skipped, the root's own included, and each leads to a real directory. -/
structure IsEntered (w : World) (skip : List String) (root : FilePath) (names : List String) :
    Prop where
  root_kept : root.name ∉ skip
  way_kept : ∀ front name, front ++ [name] <+: names →
    IsEntryName name ∧ name ∉ skip ∧ w.IsRealDirectory (root.descend (front ++ [name]))

/-- `IsMet w skip root names` says that a walk from `root` comes to the entry at `names`: it lies in
a directory that is entered. -/
def IsMet (w : World) (skip : List String) (root : FilePath) (names : List String) : Prop :=
  ∃ front last, names = front ++ [last] ∧ IsEntered w skip root front ∧ IsEntryName last ∧
    ∃ place t, w.findEntry (root.descend names) = .ok (place, t)

/-- `IsMatch w suffix skip root names` says that an entry of a directory that is entered has the
suffix and is no directory once links are followed. -/
def IsMatch (w : World) (suffix : String) (skip : List String) (root : FilePath)
    (names : List String) : Prop :=
  IsMet w skip root names ∧ w.hasDirectory (root.descend names) = .ok false ∧
    (root.descend names).suffix = suffix

/-- `Stops w root skip names halt` says that `halt` ends a walk where it comes to `names`: it is not
told what the entry there is, or it is, and the entry or the root is a directory that lies deeper
than calls may nest, or one that is entered and may not be listed. -/
inductive Stops (w : World) (root : FilePath) (skip : List String) (names : List String) :
    Halt → Prop where
  | untold {e : SystemError} :
      IsMet w skip root names → untold? w (root.descend names) = some e →
      Stops w root skip names (.system e)
  | tooDeep :
      names = [] ∨ IsMet w skip root names ∧ w.IsRealDirectory (root.descend names) →
      untold? w (root.descend names) = none → w.host.depths.walk ≤ names.length →
      Stops w root skip names (.tooDeep w.host.tooDeep)
  | unlisted :
      IsEntered w skip root names → untold? w (root.descend names) = none →
      names.length < w.host.depths.walk → (root.descend names).text ∈ w.denied.list →
      Stops w root skip names (.fault (.unlisted (root.descend names).text))

/-- `Obstacle w root skip halt` says that `halt` is why a project cannot be walked: the system does
not tell whether anything lies at its root, nothing does, or no directory, or a walk meets it before
anything else that would stop it. -/
inductive Obstacle (w : World) (root : FilePath) (skip : List String) : Halt → Prop where
  | untold {e : SystemError} : w.has root = .error e → Obstacle w root skip (.system e)
  | noRoot : w.has root = .ok false → Obstacle w root skip (.fault (.noRoot root.text))
  | rootNotDirectory :
      w.has root = .ok true → w.hasDirectory root = .ok false →
      Obstacle w root skip (.fault (.rootNotDirectory root.text))
  | met (names : List String) {halt : Halt} :
      w.hasDirectory root = .ok true → Stops w root skip names halt →
      (∀ other halt', Stops w root skip other halt' → ¬ other < names) →
      Obstacle w root skip halt

/-- `Descends w skip q p` says that a walk goes from the directory at `p` down to the one at `q`. -/
def Descends (w : World) (skip : List String) (q p : FilePath) : Prop :=
  ∃ name, IsEntryName name ∧ name ∉ skip ∧ q = p.child name ∧ w.IsRealDirectory q

variable {w : World} {skip : List String} {suffix : String} {root path q : FilePath} {t u : Tree}
  {place names : List String} {name : String}

/-! ## The order of a tour -/

/-- Lists with a common front are in the order of what follows it. -/
theorem lt_of_append_lt {front a b : List String} (h : front ++ a < front ++ b) : a < b := by
  induction front with
  | nil => exact h
  | cons name front ih =>
      rcases List.cons_lt_cons_iff.1 h with hlt | ⟨_, hrest⟩
      · exact absurd hlt (lt_irrefl name)
      · exact ih hrest

/-- Entries of different names are sorted into a strict order. -/
theorem sort_by_name_pairwise {entries : List (String × Tree)}
    (hnodup : (entries.map (·.1)).Nodup) :
    (sortByName entries).Pairwise fun a b => a.1 < b.1 := by
  have hperm : (sortByName entries).Perm entries := List.mergeSort_perm _ _
  have hnames : (sortByName entries).Pairwise fun a b => a.1 ≠ b.1 :=
    List.pairwise_map.1 ((hperm.map _).nodup_iff.2 hnodup)
  have hsorted : (sortByName entries).Pairwise fun a b => decide (a.1 ≤ b.1) = true := by
    apply List.pairwise_mergeSort
    · intro a b c hab hbc
      simp only [decide_eq_true_eq] at hab hbc ⊢
      exact le_trans hab hbc
    · intro a b
      simpa using le_total a.1 b.1
  refine (hnames.and hsorted).imp ?_
  intro a b hab
  exact lt_of_le_of_ne (of_decide_eq_true hab.2) hab.1

/-- The names of what a tour over an entry comes to start with those of the directory and of the
entry. -/
theorem parts_of_mem_tour_child (hu : u.WellFormed)
    (h : (q, t) ∈ tour skip (path.child name) u) :
    ∃ more, q.parts = path.parts ++ name :: more := by
  obtain ⟨more, hmore⟩ := FilePath.parts_of_eq_or_below (eq_or_below_of_mem_tour hu h)
  exact ⟨more, by simpa [FilePath.child] using hmore⟩

/-- A tour comes to paths in the order of their names, a directory before what is in it. -/
theorem tour_pairwise (skip : List String) (path : FilePath) (ht : t.WellFormed) :
    (tour skip path t).Pairwise fun a b => a.1.parts < b.1.parts := by
  induction t using Tree.ind generalizing path with
  | file content => simp [tour]
  | link target => simp [tour]
  | directory entries ih =>
      by_cases hskip : path.name ∈ skip
      · simp [tour_skipped hskip]
      have hentry : ∀ entry ∈ sortByName entries, entry.2.WellFormed := by
        intro entry hmem
        exact ht.entry (List.mem_mergeSort.1 hmem)
      rw [tour_directory hskip, List.pairwise_cons, List.pairwise_flatMap]
      refine ⟨?_, ?_, ?_⟩
      · intro visited hmem
        obtain ⟨entry, hsorted, hmem⟩ := List.mem_flatMap.1 hmem
        obtain ⟨more, hmore⟩ := parts_of_mem_tour_child (hentry entry hsorted) hmem
        have hlt : path.parts ++ [] < path.parts ++ entry.1 :: more :=
          List.append_left_lt (List.nil_lt_cons entry.1 more)
        simpa [hmore] using hlt
      · intro entry hmem
        have hmem := List.mem_mergeSort.1 hmem
        exact ih entry hmem _ (ht.entry hmem)
      · refine (sort_by_name_pairwise ht.names_nodup).imp_of_mem ?_
        intro a b ha hb hlt x hx y hy
        obtain ⟨more, hmore⟩ := parts_of_mem_tour_child (hentry a ha) hx
        obtain ⟨more', hmore'⟩ := parts_of_mem_tour_child (hentry b hb) hy
        rw [hmore, hmore']
        exact List.append_left_lt (List.cons_lt_cons_iff.2 (.inl hlt))

/-! ## Asking the file system -/

/-- The root is entered unless its name is skipped. -/
theorem entered_nil_iff : IsEntered w skip root [] ↔ root.name ∉ skip := by
  constructor
  · exact IsEntered.root_kept
  · intro hroot
    refine ⟨hroot, fun front name hlead => ?_⟩
    simp at hlead

/-- A directory is entered when the one above it is, it is real, and its name is not skipped. -/
theorem entered_concat_iff : IsEntered w skip root (names ++ [name]) ↔
    IsEntered w skip root names ∧ IsEntryName name ∧ name ∉ skip ∧
      w.IsRealDirectory (root.descend (names ++ [name])) := by
  constructor
  · intro h
    refine ⟨⟨h.root_kept, fun front other hlead => ?_⟩, h.way_kept names name List.prefix_rfl⟩
    exact h.way_kept front other (hlead.trans (List.prefix_append names [name]))
  · intro h
    obtain ⟨habove, hhere⟩ := h
    refine ⟨habove.root_kept, fun front other hlead => ?_⟩
    rcases List.prefix_concat_iff.1 hlead with heq | hlead
    · obtain ⟨rfl, hlast⟩ := List.append_inj' heq rfl
      obtain ⟨rfl, _⟩ := List.cons.inj hlast
      exact hhere
    · exact habove.way_kept front other hlead

/-- A walk comes to an entry when it comes to its directory and does not skip it. -/
theorem reaches_concat_iff : Reaches skip root t (root.descend (names ++ [name])) u ↔
    ∃ entries, Reaches skip root t (root.descend names) (.directory entries) ∧
      (root.descend names).name ∉ skip ∧ (name, u) ∈ entries := by
  constructor
  · intro h
    generalize hq : root.descend (names ++ [name]) = q at h
    cases h with
    | root =>
        have hlength := congrArg (fun p : FilePath => p.parts.length) hq
        simp [FilePath.descend] at hlength
    | @entry q entries name' _ hreach hskip hmem =>
        rw [← FilePath.child_descend] at hq
        obtain ⟨rfl, rfl⟩ := FilePath.child_injective hq
        exact ⟨entries, hreach, hskip, hmem⟩
  · intro h
    obtain ⟨entries, hreach, hskip, hmem⟩ := h
    rw [← FilePath.child_descend]
    exact .entry hreach hskip hmem

/-- What a walk over a well-formed tree comes to lies in the tree, some entry names down. -/
theorem Reaches.descend (ht : t.WellFormed) (h : Reaches skip root t q u) :
    ∃ names, q = root.descend names ∧ (∀ name ∈ names, IsEntryName name) ∧
      t.lookup names = some u := by
  induction h with
  | root => exact ⟨[], by simp, by simp, rfl⟩
  | entry _ _ hmem ih =>
      obtain ⟨names, rfl, hnames, hlookup⟩ := ih
      have hdirectory := ht.lookup hlookup
      refine ⟨names ++ [_], FilePath.child_descend _ _, ?_, ?_⟩
      · rw [List.forall_mem_append]
        exact ⟨hnames, by simpa using hdirectory.name_ok hmem⟩
      · exact Tree.lookup_concat_iff.2 ⟨_, hlookup, hdirectory.child? hmem⟩

/-- What a walk comes to some entry names down lies there in the tree. -/
theorem Reaches.lookup (ht : t.WellFormed) (h : Reaches skip root t (root.descend names) u) :
    (∀ name ∈ names, IsEntryName name) ∧ t.lookup names = some u := by
  obtain ⟨others, heq, hothers, hlookup⟩ := h.descend ht
  obtain rfl := FilePath.descend_injective heq
  exact ⟨hothers, hlookup⟩

/-- The directories that a walk enters are those it comes to and does not skip. -/
theorem entered_iff (ht : t.WellFormed) (hfind : w.find root = .ok (place, t))
    (hdirectory : t.isDirectory = true) :
    IsEntered w skip root names ↔
      ∃ entries, Reaches skip root t (root.descend names) (.directory entries) ∧
        (root.descend names).name ∉ skip := by
  induction names using List.reverseRecOn with
  | nil =>
      rw [entered_nil_iff, FilePath.descend_nil]
      constructor
      · intro hroot
        cases t with
        | file content => cases hdirectory
        | link target => cases hdirectory
        | directory entries => exact ⟨entries, .root, hroot⟩
      · intro hroot
        obtain ⟨_, _, hroot⟩ := hroot
        exact hroot
  | append_singleton names name ih =>
      rw [entered_concat_iff, ih, FilePath.name_descend_concat]
      constructor
      · intro h
        obtain ⟨⟨entries, hreach, hkept⟩, hname, hskip, here, below, hentry⟩ := h
        obtain ⟨hnames, hlookup⟩ := hreach.lookup ht
        have hbelow := World.lookup_of_find_entry hfind hlookup hnames hname hentry
        rw [Tree.lookup_append, hlookup, Option.bind_some, Tree.lookup_singleton] at hbelow
        exact ⟨below, reaches_concat_iff.2 ⟨entries, hreach, hkept, Tree.mem_of_child? hbelow⟩,
          hskip⟩
      · intro h
        obtain ⟨below, hreach, hskip⟩ := h
        obtain ⟨entries, habove, hkept, hmem⟩ := reaches_concat_iff.1 hreach
        obtain ⟨hnames, hlookup⟩ := hreach.lookup ht
        exact ⟨⟨entries, habove, hkept⟩, hnames name (by simp), hskip, _, below,
          World.find_entry_descend hfind (by simp) hnames hlookup⟩

/-- The entries that a walk meets are those it comes to below the root. -/
theorem met_iff (ht : t.WellFormed) (hfind : w.find root = .ok (place, t))
    (hdirectory : t.isDirectory = true) : IsMet w skip root names ↔
      names ≠ [] ∧ ∃ u, Reaches skip root t (root.descend names) u := by
  constructor
  · rintro ⟨front, last, rfl, hentered, hlast, here, u, hentry⟩
    obtain ⟨entries, hreach, hkept⟩ := (entered_iff ht hfind hdirectory).1 hentered
    obtain ⟨hnames, hlookup⟩ := hreach.lookup ht
    have hu := World.lookup_of_find_entry hfind hlookup hnames hlast hentry
    obtain ⟨entries', hfront, hchild⟩ := Tree.lookup_concat_iff.1 hu
    obtain rfl := Tree.directory.inj (Option.some.inj (hlookup.symm.trans hfront))
    exact ⟨by simp, u, reaches_concat_iff.2 ⟨entries, hreach, hkept, Tree.mem_of_child? hchild⟩⟩
  · rintro ⟨hne, u, hreach⟩
    obtain ⟨front, last, rfl⟩ := (List.eq_nil_or_concat' names).resolve_left hne
    obtain ⟨entries, habove, hkept, -⟩ := reaches_concat_iff.1 hreach
    obtain ⟨hnames, hlookup⟩ := hreach.lookup ht
    exact ⟨front, last, rfl, (entered_iff ht hfind hdirectory).2 ⟨entries, habove, hkept⟩,
      hnames last (by simp), _, u, World.find_entry_descend hfind (by simp) hnames hlookup⟩

/-- What is reached below the root is a directory when a real directory lies there. -/
theorem real_directory_iff (ht : t.WellFormed) (hfind : w.find root = .ok (place, t))
    (hne : names ≠ []) (hreach : Reaches skip root t (root.descend names) u) :
    w.IsRealDirectory (root.descend names) ↔ u.isDirectory = true := by
  obtain ⟨hnames, hlookup⟩ := hreach.lookup ht
  rw [World.IsRealDirectory, World.find_entry_descend hfind hne hnames hlookup]
  cases u <;> simp [Tree.isDirectory]

/-- What is told of an entry that is no link is what it is. -/
theorem has_directory_of_told_find (htold : untold? w q = none) (hnul : World.hasNul q = false)
    (hfind : w.find q = .ok (place, t)) : w.hasDirectory q = .ok t.isDirectory := by
  obtain ⟨here, u, hentry⟩ := World.find_entry_of_find hfind
  rw [untold?_eq hnul hentry, hfind] at htold
  rw [World.hasDirectory, World.stat, World.holds_asked, hnul, hfind]
  cases hlook : w.refusal? q with
  | some e =>
      rw [hlook] at htold
      cases htold
  | none => rfl

/-- A path to what is reached in a well-formed tree holds no NUL character. -/
theorem has_nul_descend (hw : w.tree.WellFormed) (hfind : w.find root = .ok (place, t))
    (hnames : ∀ name ∈ names, IsEntryName name) : World.hasNul (root.descend names) = false := by
  rw [World.hasNul, List.any_eq_false]
  intro name hname
  rw [List.contains_iff_mem]
  rcases List.mem_append.1 hname with hname | hname
  · exact World.no_nul_of_find hw hfind name hname
  · exact (hnames name hname).no_nul

/-- The files that a walk finds are the matches, where it is told what everything is. -/
theorem match_iff (hw : w.tree.WellFormed) (hfind : w.find root = .ok (place, t))
    (hdirectory : t.isDirectory = true)
    (htold : ∀ q u, Reaches skip root t q u → untold? w q = none) :
    IsMatch w suffix skip root names ↔
      ∃ u, Reaches skip root t (root.descend names) u ∧
        isFound w suffix (root.descend names, u) = true := by
  have ht := World.find_well_formed hw hfind
  rw [IsMatch, met_iff ht hfind hdirectory]
  constructor
  · rintro ⟨⟨-, u, hreach⟩, hno, hsuffix⟩
    obtain ⟨hnames, hlookup⟩ := hreach.lookup ht
    refine ⟨u, hreach, ?_⟩
    -- A directory at the end of the way would be told from its path.
    cases u with
    | file content => simp [isFound, Tree.isDirectory, Tree.isLink, hsuffix]
    | link target => simp [isFound, Tree.isDirectory, hno, hsuffix]
    | directory below =>
        rw [has_directory_of_told_find (htold _ _ hreach) (has_nul_descend hw hfind hnames)
          (World.find_descend hfind hnames hlookup rfl)] at hno
        cases hno
  · rintro ⟨u, hreach, hfound⟩
    obtain ⟨hnames, hlookup⟩ := hreach.lookup ht
    simp only [isFound, Bool.and_eq_true, Bool.not_eq_true', Bool.and_eq_false_iff,
      beq_iff_eq] at hfound
    obtain ⟨⟨hu, hlink⟩, hsuffix⟩ := hfound
    refine ⟨⟨?_, u, hreach⟩, ?_, hsuffix⟩
    · rintro rfl
      cases hlookup
      rw [hdirectory] at hu
      cases hu
    · rcases hlink with hlink | hno
      · rw [has_directory_of_told_find (htold _ _ hreach) (has_nul_descend hw hfind hnames)
          (World.find_descend hfind hnames hlookup hlink), hu]
      · obtain ⟨answer, hanswer⟩ := has_directory_of_told (htold _ _ hreach)
        rw [hanswer] at hno ⊢
        cases answer with
        | true => cases hno
        | false => rfl

/-! ## Going down ends -/

/-- No walk goes down for ever. -/
theorem descends_acc (hfind : w.find path = .ok (place, t)) (hdirectory : t.isDirectory = true) :
    Acc (Descends w skip) path := by
  induction t using Tree.ind generalizing path place with
  | file content => cases hdirectory
  | link target => cases hdirectory
  | directory entries ih =>
      refine ⟨_, fun q hdown => ?_⟩
      obtain ⟨name, hname, _, rfl, here, below, hentry⟩ := hdown
      have hchild : path.child name = path.descend ([] ++ [name]) := rfl
      rw [hchild] at hentry ⊢
      have hbelow := World.lookup_of_find_entry hfind rfl (by simp) hname hentry
      have hmem := Tree.mem_of_child? (Tree.lookup_singleton.symm.trans hbelow)
      exact ih _ hmem (World.find_descend hfind (by simpa using hname) hbelow rfl) rfl

/-! ## What stops a walk -/

/-- A walk is stopped where its tour is. -/
theorem stops_iff (ht : t.WellFormed) (hfind : w.find root = .ok (place, t))
    (hdirectory : t.isDirectory = true) (hhas : w.has root = .ok true) {halt : Halt} :
    Stops w root skip names halt ↔
      ∃ u, (root.descend names, u) ∈ tour skip root t ∧
        stop? w skip (root.parts.length + w.host.depths.walk) (root.descend names, u) =
          some halt := by
  have hlength : (root.descend names).parts.length = root.parts.length + names.length := by
    simp [FilePath.descend]
  constructor
  · intro h
    cases h with
    | untold hmet huntold =>
        obtain ⟨-, u, hreach⟩ := (met_iff ht hfind hdirectory).1 hmet
        exact ⟨u, mem_tour_iff.2 hreach, stop?_eq_some_iff.2 (.inl ⟨_, huntold, rfl⟩)⟩
    | tooDeep hwhere htold hdeep =>
        have hreached : ∃ u, Reaches skip root t (root.descend names) u ∧ u.isDirectory = true := by
          rcases hwhere with rfl | ⟨hmet, hreal⟩
          · exact ⟨t, by simpa using .root, hdirectory⟩
          · obtain ⟨hne, u, hreach⟩ := (met_iff ht hfind hdirectory).1 hmet
            exact ⟨u, hreach, (real_directory_iff ht hfind hne hreach).1 hreal⟩
        obtain ⟨u, hreach, hu⟩ := hreached
        exact ⟨u, mem_tour_iff.2 hreach,
          stop?_eq_some_iff.2 (.inr ⟨htold, hu, .inl ⟨by omega, rfl⟩⟩)⟩
    | unlisted hentered htold hdeep hlist =>
        obtain ⟨entries, hreach, hkept⟩ := (entered_iff ht hfind hdirectory).1 hentered
        exact ⟨_, mem_tour_iff.2 hreach,
          stop?_eq_some_iff.2 (.inr ⟨htold, rfl, .inr ⟨by omega, hkept, hlist, rfl⟩⟩)⟩
  · rintro ⟨u, hmem, hstop⟩
    have hreach : Reaches skip root t (root.descend names) u := mem_tour_iff.1 hmem
    obtain ⟨e, huntold, rfl⟩ | ⟨htold, hu, ⟨hdeep, rfl⟩ | ⟨hdeep, hkept, hlist, rfl⟩⟩ :=
      stop?_eq_some_iff.1 hstop
    · refine .untold ((met_iff ht hfind hdirectory).2 ⟨?_, u, hreach⟩) huntold
      rintro rfl
      rw [FilePath.descend_nil, told_root hhas] at huntold
      cases huntold
    · refine .tooDeep ?_ htold (by omega)
      by_cases hne : names = []
      · exact .inl hne
      · exact .inr ⟨(met_iff ht hfind hdirectory).2 ⟨hne, u, hreach⟩,
          (real_directory_iff ht hfind hne hreach).2 hu⟩
    · cases u with
      | file content => cases hu
      | link target => cases hu
      | directory entries =>
          exact .unlisted ((entered_iff ht hfind hdirectory).2 ⟨entries, hreach, hkept⟩) htold
            (by omega) hlist

/-- A walk is stopped at one place for one reason. -/
theorem stops_unique (ht : t.WellFormed) (hfind : w.find root = .ok (place, t))
    (hdirectory : t.isDirectory = true) (hhas : w.has root = .ok true) {halt halt' : Halt}
    (h : Stops w root skip names halt) (h' : Stops w root skip names halt') : halt = halt' := by
  obtain ⟨u, hmem, hstop⟩ := (stops_iff ht hfind hdirectory hhas).1 h
  obtain ⟨u', hmem', hstop'⟩ := (stops_iff ht hfind hdirectory hhas).1 h'
  have hlookup := ((mem_tour_iff.1 hmem).lookup ht).2
  have hlookup' := ((mem_tour_iff.1 hmem').lookup ht).2
  rw [hlookup] at hlookup'
  cases hlookup'
  rw [hstop] at hstop'
  exact Option.some.inj hstop'

/-- What stops the survey of a tour first is met before anything else that stops a walk. -/
theorem first_stop (ht : t.WellFormed) (hfind : w.find root = .ok (place, t))
    (hdirectory : t.isDirectory = true) (hhas : w.has root = .ok true) {halt : Halt}
    (h : (tour skip root t).findSome?
      (stop? w skip (root.parts.length + w.host.depths.walk)) = some halt) :
    ∃ names, Stops w root skip names halt ∧
      ∀ other halt', Stops w root skip other halt' → ¬ other < names := by
  obtain ⟨before, ⟨q, u⟩, after, htour, hstop, hbefore⟩ := List.findSome?_eq_some_iff.1 h
  have hmem : (q, u) ∈ tour skip root t := by simp [htour]
  obtain ⟨names, rfl, _, _⟩ := (mem_tour_iff.1 hmem).descend ht
  refine ⟨names, (stops_iff ht hfind hdirectory hhas).2 ⟨u, hmem, hstop⟩, ?_⟩
  -- A smaller one would come earlier in the tour and stop the walk there.
  intro other halt' hother hlt
  obtain ⟨v, hmem, hstop'⟩ := (stops_iff ht hfind hdirectory hhas).1 hother
  have hpairwise := tour_pairwise skip root ht
  rw [htour] at hmem hpairwise
  rcases List.mem_append.1 hmem with hmem | hmem
  · rw [hbefore _ hmem] at hstop'
    cases hstop'
  · rcases List.mem_cons.1 hmem with heq | hmem
    · obtain rfl := FilePath.descend_injective (Prod.mk.inj heq).1
      exact lt_irrefl _ hlt
    · have hbehind := (List.pairwise_cons.1 (List.pairwise_append.1 hpairwise).2.1).1 _ hmem
      exact lt_asymm hlt (lt_of_append_lt hbehind)

/-- Where the root is a directory, what stops the survey of a tour first is the obstacle. -/
theorem stop_iff_obstacle (ht : t.WellFormed) (hfind : w.find root = .ok (place, t))
    (hdirectory : t.isDirectory = true) (hhas : w.has root = .ok true) {halt : Halt} :
    (tour skip root t).findSome? (stop? w skip (root.parts.length + w.host.depths.walk)) =
      some halt ↔ Obstacle w root skip halt := by
  have hyes : w.hasDirectory root = .ok true :=
    (World.has_directory_of_has hhas hfind).trans (congrArg _ hdirectory)
  constructor
  · intro h
    obtain ⟨names, hstops, hfirst⟩ := first_stop ht hfind hdirectory hhas h
    exact .met names hyes hstops hfirst
  · intro h
    cases h with
    | untold hno => simp [hhas] at hno
    | noRoot hno => simp [hhas] at hno
    | rootNotDirectory _ hno => simp [hyes] at hno
    | met names _ hstops hfirst =>
        -- Something stops the walk; being first, it stops it at the same names.
        obtain ⟨u, hmem, hstop⟩ := (stops_iff ht hfind hdirectory hhas).1 hstops
        cases hsome : (tour skip root t).findSome?
            (stop? w skip (root.parts.length + w.host.depths.walk)) with
        | none =>
            rw [List.findSome?_eq_none_iff.1 hsome _ hmem] at hstop
            cases hstop
        | some halt' =>
            obtain ⟨others, hstops', hfirst'⟩ := first_stop ht hfind hdirectory hhas hsome
            obtain rfl : others = names := le_antisymm
              (not_lt.1 (hfirst' names halt hstops)) (not_lt.1 (hfirst others halt' hstops'))
            rw [stops_unique ht hfind hdirectory hhas hstops' hstops]

/-- Discovery fails for an obstacle and for nothing else. -/
theorem discover_error_iff_obstacle (hw : w.tree.WellFormed) (extension : String) (halt : Halt) :
    discover w root extension skip = .error halt ↔ Obstacle w root skip halt := by
  by_cases hhas : w.has root = .ok true
  · obtain ⟨-, -, place, t, hfind⟩ := World.has_eq_true_iff.1 hhas
    cases hdirectory : t.isDirectory with
    | false =>
        have hno : w.hasDirectory root = .ok false :=
          (World.has_directory_of_has hhas hfind).trans (congrArg _ hdirectory)
        rw [discover_of_not_directory hhas hfind hdirectory]
        constructor
        · intro h
          cases h
          exact .rootNotDirectory hhas hno
        · intro h
          cases h with
          | untold h => simp [hhas] at h
          | noRoot h => simp [hhas] at h
          | rootNotDirectory => rfl
          | met _ hyes => simp [hno] at hyes
    | true =>
        rw [← stop_iff_obstacle (World.find_well_formed hw hfind) hfind hdirectory hhas,
          discover_of_find hhas hfind hdirectory, survey]
        split <;> simp [*]
  · have hno := World.has_directory_of_not_has hhas
    rw [discover_of_not_has hhas]
    cases hanswer : w.has root with
    | error e =>
        constructor
        · intro h
          cases h
          exact .untold hanswer
        · intro h
          cases h with
          | untold h => simpa [hanswer, eq_comm] using h
          | noRoot h => simp [hanswer] at h
          | rootNotDirectory h => simp [hanswer] at h
          | met _ hyes => simp [hno, hanswer] at hyes
    | ok answer =>
        cases answer with
        | true => exact absurd hanswer hhas
        | false =>
            constructor
            · intro h
              cases h
              exact .noRoot hanswer
            · intro h
              cases h with
              | untold h => simp [hanswer] at h
              | noRoot => rfl
              | rootNotDirectory h => simp [hanswer] at h
              | met _ hyes => simp [hno, hanswer] at hyes

/-! ## What a walk finds -/

/-- Nothing stops a survey that succeeds. -/
theorem stop?_of_survey {deepest : Nat} {visits : List (FilePath × Tree)} {paths : List FilePath}
    (h : survey w suffix skip deepest visits = .ok paths) :
    ∀ visited ∈ visits, stop? w skip deepest visited = none := by
  unfold survey at h
  split at h
  · cases h
  · next hnone => exact List.findSome?_eq_none_iff.1 hnone

/-- A survey that succeeds is told what everything is that it comes to. -/
theorem told_of_survey {deepest : Nat} {visits : List (FilePath × Tree)} {paths : List FilePath}
    (h : survey w suffix skip deepest visits = .ok paths) :
    ∀ visited ∈ visits, untold? w visited.1 = none := by
  intro visited hmem
  have hstop := stop?_of_survey h visited hmem
  unfold stop? at hstop
  split at hstop
  · cases hstop
  · assumption

/-- Nothing stops the walk of a discovery that succeeds. -/
theorem not_stops_of_discover (hw : w.tree.WellFormed) {extension : String}
    {paths : List FilePath} {halt : Halt} (h : discover w root extension skip = .ok paths) :
    ¬ Stops w root skip names halt := by
  obtain ⟨hhas, place, t, hfind, hdirectory, hsurvey⟩ := survey_of_discover h
  intro hstops
  obtain ⟨u, hmem, hstop⟩ :=
    (stops_iff (World.find_well_formed hw hfind) hfind hdirectory hhas).1 hstops
  rw [stop?_of_survey hsurvey _ hmem] at hstop
  cases hstop

/-- A discovery that succeeds finds the matches, in the order of their names. -/
theorem discover_ok_matches (hw : w.tree.WellFormed) {extension : String} {paths : List FilePath}
    (h : discover w root extension skip = .ok paths) :
    ∃ ways : List (List String), paths = ways.map root.descend ∧
      (∀ names, names ∈ ways ↔ IsMatch w ("." ++ extension) skip root names) ∧
      ways.Pairwise (· < ·) := by
  obtain ⟨-, place, t, hfind, hdirectory, hsurvey⟩ := survey_of_discover h
  have ht := World.find_well_formed hw hfind
  have htold : ∀ q u, Reaches skip root t q u → untold? w q = none :=
    fun q u hreach => told_of_survey hsurvey (q, u) (mem_tour_iff.2 hreach)
  rw [paths_of_survey hsurvey]
  have hdown : ∀ visited ∈ tour skip root t,
      visited.1 = root.descend (visited.1.parts.drop root.parts.length) := by
    intro visited hmem
    obtain ⟨names, heq, _⟩ := (mem_tour_iff.1 hmem).descend ht
    rw [heq]
    simp [FilePath.descend]
  refine ⟨((tour skip root t).filter (isFound w ("." ++ extension))).map fun visited =>
    visited.1.parts.drop root.parts.length, ?_, ?_, ?_⟩
  · rw [List.map_map]
    apply List.map_congr_left
    intro visited hmem
    exact hdown visited (List.mem_filter.1 hmem).1
  · intro names
    rw [match_iff hw hfind hdirectory htold, List.mem_map]
    constructor
    · rintro ⟨⟨q, u⟩, hmem, rfl⟩
      obtain ⟨hmem, hfound⟩ := List.mem_filter.1 hmem
      have hq := hdown _ hmem
      exact ⟨u, mem_tour_iff.1 (hq ▸ hmem), hq ▸ hfound⟩
    · rintro ⟨u, hreach, hfound⟩
      exact ⟨(root.descend names, u), List.mem_filter.2 ⟨mem_tour_iff.2 hreach, hfound⟩,
        by simp [FilePath.descend]⟩
  · rw [List.pairwise_map]
    refine ((tour_pairwise skip root ht).filter _).imp_of_mem ?_
    intro a b ha hb hlt
    rw [hdown a (List.mem_filter.1 ha).1, hdown b (List.mem_filter.1 hb).1] at hlt
    exact lt_of_append_lt hlt

/-- Discovery goes down through real directories only, so it ends. It fails for an obstacle and for
nothing else; where there is none it finds exactly the matches, in the order of their names and none
twice. -/
theorem discover_exact (hw : w.tree.WellFormed) (root : FilePath) (extension : String)
    (skip : List String) :
    (w.hasDirectory root = .ok true → Acc (Descends w skip) root) ∧
    (∀ halt, discover w root extension skip = .error halt ↔ Obstacle w root skip halt) ∧
    ((∀ halt, ¬ Obstacle w root skip halt) →
      ∃ ways : List (List String), discover w root extension skip = .ok (ways.map root.descend) ∧
        (∀ names, names ∈ ways ↔ IsMatch w ("." ++ extension) skip root names) ∧
        ways.Pairwise (· < ·) ∧ (ways.map root.descend).Nodup) := by
  refine ⟨?_, discover_error_iff_obstacle hw extension, ?_⟩
  · intro hyes
    obtain ⟨-, -, place, t, hfind, hdirectory⟩ := World.has_directory_eq_true_iff.1 hyes
    exact descends_acc hfind hdirectory
  · intro hclear
    cases hfound : discover w root extension skip with
    | error halt =>
        exact absurd ((discover_error_iff_obstacle hw extension halt).1 hfound) (hclear halt)
    | ok paths =>
        obtain ⟨ways, rfl, hways, horder⟩ := discover_ok_matches hw hfound
        exact ⟨ways, rfl, hways, horder, discover_nodup hw hfound⟩

/-- `linkedWorld target` holds a project whose only entry, no script, is a link to `target`. -/
def linkedWorld (target : String) : World :=
  ⟨.directory [("game", .directory [("x.txt", .link target)])], [], [], ⟨[], [], []⟩, .usual⟩

/-- `longTarget` is a name that is longer than a name may be. -/
def longTarget : String := String.ofList (List.replicate 300 'a')

/-- A name that is longer than a name may be is still one name. -/
theorem long_target : '/' ∉ longTarget.toList ∧ World.nameLimit < longTarget.utf8ByteSize := by
  have hletters : longTarget.toList = List.replicate 300 'a' := String.toList_ofList
  have hslash : '/' ∉ longTarget.toList := by
    rw [hletters]
    exact fun hmem => absurd (List.eq_of_mem_replicate hmem) (by decide)
  have hlong : World.nameLimit < longTarget.utf8ByteSize := by decide +kernel
  exact ⟨hslash, hlong⟩

/-- A link to a name that is longer than a name may be is not followed. -/
theorem find_long_target {target : String} (hslash : '/' ∉ target.toList)
    (hlong : World.nameLimit < target.utf8ByteSize) :
    (linkedWorld target).find ⟨.root, ["game", "x.txt"]⟩ = .error .nameTooLong := by
  have hne (name : String) (hshort : name.utf8ByteSize ≤ World.nameLimit) : target ≠ name :=
    fun heq => absurd hshort (Nat.not_le.2 (heq ▸ hlong))
  have hempty := hne "" (by decide)
  have hlast : target.toList.getLast? ≠ some '/' := fun h => hslash (List.mem_of_getLast? h)
  have hnames : World.targetNames target = [target] := by
    rw [World.targetNames, if_neg hlast, Text.splitText, List.splitOn_eq_singleton hslash]
    simp [hempty]
  have hhead : (FilePath.ofString target).isAbsolute = false := by
    obtain ⟨c, cs, hcs⟩ := List.exists_cons_of_ne_nil
      (fun hnil => hempty (String.toList_eq_nil_iff.1 hnil))
    have hc : c ≠ '/' := fun heq => hslash (by rw [hcs, heq]; exact List.mem_cons_self)
    simp [FilePath.ofString, FilePath.isAbsolute, FilePath.anchorOf, hcs, hc]
  have hstep : World.walk (linkedWorld target).tree true [] ["game", "x.txt"] =
      .link ["game"] target [] := rfl
  have hrest : World.walk (linkedWorld target).tree true ["game"] [target] =
      .refused .nameTooLong := by
    rw [World.walk]
    show (if target = ".." then _ else if target = "." then _ else
      if World.nameLimit < target.utf8ByteSize then _ else _) = _
    rw [if_neg (hne ".." (by decide)), if_neg (hne "." (by decide)), if_pos hlong]
  show World.walkLinks (linkedWorld target).tree true 40 [] ["game", "x.txt"] = _
  rw [World.walkLinks, hstep]
  simp only [if_neg hempty, hhead, hnames, Bool.false_eq_true, ↓reduceIte, List.append_nil]
  rw [World.walkLinks, hrest]

/-- A link to a name that is longer than a name may be ends a discovery. -/
theorem discover_linked {target : String} (hslash : '/' ∉ target.toList)
    (hlong : World.nameLimit < target.utf8ByteSize) {skip : List String} (hskip : "game" ∉ skip)
    (extension : String) :
    discover (linkedWorld target) ⟨.root, ["game"]⟩ extension skip =
      .error (.system ⟨.nameTooLong, "/game/x.txt"⟩) := by
  have hhas : (linkedWorld target).has ⟨.root, ["game"]⟩ = .ok true := rfl
  have hfind : (linkedWorld target).find ⟨.root, ["game"]⟩ =
      .ok (["game"], .directory [("x.txt", .link target)]) := rfl
  have hentry : (linkedWorld target).findEntry ⟨.root, ["game", "x.txt"]⟩ =
      .ok (["game", "x.txt"], .link target) := rfl
  have huntold : untold? (linkedWorld target) ⟨.root, ["game", "x.txt"]⟩ =
      some ⟨.nameTooLong, "/game/x.txt"⟩ := by
    rw [untold?_eq rfl hentry, find_long_target hslash hlong]
    rfl
  have hstop : stop? (linkedWorld target) skip (1 + Host.usual.depths.walk)
      (⟨.root, ["game", "x.txt"]⟩, .link target) =
        some (.system ⟨.nameTooLong, "/game/x.txt"⟩) := by
    rw [stop?, huntold]
  have hroot : stop? (linkedWorld target) skip (1 + Host.usual.depths.walk)
      (⟨.root, ["game"]⟩, .directory [("x.txt", .link target)]) = none := by
    rw [stop?, told_root hhas]
    simp [linkedWorld, Tree.isDirectory, Host.usual]
  rw [discover_of_find hhas hfind rfl, tour_directory hskip, sortByName, List.mergeSort_singleton]
  refine (survey_cons hroot rfl).trans ?_
  exact survey_stopped hstop

/-- A link of which the system does not tell where it leads ends a discovery, though its root is a
directory and every directory may be listed. -/
theorem discover_long_target :
    (linkedWorld longTarget).hasDirectory ⟨.root, ["game"]⟩ = .ok true ∧
    (linkedWorld longTarget).denied.list = [] ∧
    discover (linkedWorld longTarget) ⟨.root, ["game"]⟩ "gd" [] =
      .error (.system ⟨.nameTooLong, "/game/x.txt"⟩) := by
  obtain ⟨hslash, hlong⟩ := long_target
  generalize longTarget = target at hslash hlong ⊢
  exact ⟨rfl, rfl, discover_linked hslash hlong (by simp) "gd"⟩

/-- `tangledProject` holds a link to the directory above, one to itself and one that leads nowhere,
directories named like scripts and a directory that is skipped. -/
def tangledProject : Tree := .directory
  [ ("a", .directory [("up", .link ".."), ("x.gd", .file [])]),
    ("a.gd", .file []),
    ("addons", .directory [("z.gd", .file [])]),
    ("b.gd", .directory [("y.gd", .file [])]),
    ("gone.gd", .link "nowhere"),
    ("loop.gd", .link "loop.gd"),
    ("up.gd", .link "a/up") ]

/-- `tangledWorld` holds the tangled project and nothing else. -/
def tangledWorld : World := ⟨.directory [("game", tangledProject)], [], [], ⟨[], [], []⟩, .usual⟩

/-- A file system can hold the tangled project. -/
theorem tangled_world_well_formed : tangledWorld.tree.WellFormed := by
  have hfile : ∀ name, IsEntryName name → Tree.WellFormed (.directory [(name, .file [])]) := by
    intro name hname
    exact .directory _ (by simp) (by simpa using hname) (by simpa using .file [])
  have hlinked : Tree.WellFormed (.directory [("up", .link ".."), ("x.gd", .file [])]) := by
    refine .directory _ (by decide) (by decide) ?_
    simp only [List.forall_mem_cons]
    exact ⟨.link _, .file _, by simp⟩
  have hproject : tangledProject.WellFormed := by
    refine .directory _ (by decide) (by decide) ?_
    simp only [List.forall_mem_cons]
    exact ⟨hlinked, .file _, hfile _ (by decide), hfile _ (by decide), .link _, .link _, .link _,
      by simp⟩
  exact .directory _ (by decide) (by decide) (by simpa using hproject)

/-- The walk over the tangled project ends, nothing stops it, and it finds five scripts, two of them
behind links that lead to no file. -/
theorem discover_exact_tangled :
    tangledWorld.tree.WellFormed ∧
    Acc (Descends tangledWorld ["addons"]) ⟨.root, ["game"]⟩ ∧
    (∀ halt, ¬ Obstacle tangledWorld ⟨.root, ["game"]⟩ ["addons"] halt) ∧
    ∃ ways, discover tangledWorld ⟨.root, ["game"]⟩ "gd" ["addons"] =
        .ok (ways.map (FilePath.descend ⟨.root, ["game"]⟩)) ∧
      (∀ names, names ∈ ways ↔
        IsMatch tangledWorld ".gd" ["addons"] ⟨.root, ["game"]⟩ names) ∧
      ways = [["a", "x.gd"], ["a.gd"], ["b.gd", "y.gd"], ["gone.gd"], ["loop.gd"]] := by
  have hhas : tangledWorld.has ⟨.root, ["game"]⟩ = .ok true := rfl
  have hfind : tangledWorld.find ⟨.root, ["game"]⟩ = .ok (["game"], tangledProject) := rfl
  have hfound : discover tangledWorld ⟨.root, ["game"]⟩ "gd" ["addons"] =
      .ok ([["a", "x.gd"], ["a.gd"], ["b.gd", "y.gd"], ["gone.gd"], ["loop.gd"]].map
        (FilePath.descend ⟨.root, ["game"]⟩)) := by
    rw [discover_of_find hhas hfind rfl, tangledProject, tour_directory (by decide),
      sortByName, List.mergeSort_of_pairwise (by decide)]
    simp only [List.flatMap_cons, List.flatMap_nil]
    rw [tour_directory (by decide), sortByName, List.mergeSort_of_pairwise (by decide),
      tour_skipped (by decide), tour_directory (by decide), sortByName, List.mergeSort_singleton]
    rfl
  obtain ⟨hends, hfault, hexact⟩ :=
    discover_exact tangled_world_well_formed ⟨.root, ["game"]⟩ "gd" ["addons"]
  have hclear : ∀ halt, ¬ Obstacle tangledWorld ⟨.root, ["game"]⟩ ["addons"] halt := by
    intro halt hobstacle
    have herror := (hfault halt).2 hobstacle
    rw [hfound] at herror
    cases herror
  obtain ⟨ways, hways, hmatch, _, _⟩ := hexact hclear
  refine ⟨tangled_world_well_formed, hends rfl, hclear, ways, hways, hmatch, ?_⟩
  rw [hfound] at hways
  have hmap := Except.ok.inj hways
  exact (List.map_inj_right (fun _ _ => FilePath.descend_injective)).1 hmap.symm

end Discovery

end SceneLint
