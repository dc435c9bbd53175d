import Mathlib.Data.List.Nodup
import SceneLint.Project.Discovery
import SceneLint.Proofs.Path.Below
import SceneLint.Proofs.World.Answers
import SceneLint.Proofs.World.Descent

/-!
# What discovery visits and finds

`tour` lists all that a walk comes to, in the order of the visit, as if nothing stopped it. Read
`entry_result` first: a walk is stopped where it first comes to something that stops it (`stop?`),
an entry of which nothing is told, a directory that lies too deep or one that may not be listed, and
otherwise finds the files of the tour. Everything else about discovery is about the tour, which
depends neither on the extension that is looked for nor on what the system tells.

`Reaches` says which entries a walk comes to without saying in which order, and `Unwalkable` says
when there is nothing to walk over. `discover_error_iff` joins the two sides.
-/

namespace SceneLint.Discovery

/-- `Reaches skip root t q s` says that a walk over the tree `t` at `root` comes to the tree `s` at
`q`: the root is reached, and so is every entry of a directory that is reached and not skipped. -/
inductive Reaches (skip : List String) (root : FilePath) (t : Tree) : FilePath → Tree → Prop where
  | root : Reaches skip root t root t
  | entry {q : FilePath} {entries : List (String × Tree)} {name : String} {s : Tree} :
      Reaches skip root t q (.directory entries) → q.name ∉ skip → (name, s) ∈ entries →
      Reaches skip root t (q.child name) s

/-- `Unwalkable w root skip` says that a project cannot be walked: nothing surely lies at its root,
or no directory, or the walk comes to an entry of which nothing is told, to a directory that lies
too deep, or to one that is not skipped and may not be listed. -/
def Unwalkable (w : World) (root : FilePath) (skip : List String) : Prop :=
  w.has root ≠ .ok true ∨
  (∃ place t, w.find root = .ok (place, t) ∧ t.isDirectory = false) ∨
  ∃ place t q u, w.find root = .ok (place, t) ∧ Reaches skip root t q u ∧
    ((untold? w q).isSome ∨ u.isDirectory = true ∧
      (root.parts.length + w.host.depths.walk ≤ q.parts.length ∨
        q.name ∉ skip ∧ q.text ∈ w.denied.list))

mutual
/-- `tour skip path t` lists what a walk over the tree `t` at `path` comes to, in order. -/
def tour (skip : List String) (path : FilePath) : Tree → List (FilePath × Tree)
  | .directory entries =>
      (path, .directory entries) ::
        (if skip.contains path.name then []
         else ((sortByName (tourEntries skip path entries)).map (·.2)).flatten)
  | .link target => [(path, .link target)]
  | .file content => [(path, .file content)]

/-- `tourEntries skip path entries` is the tour of each entry of the directory at `path`. -/
def tourEntries (skip : List String) (path : FilePath) :
    List (String × Tree) → List (String × List (FilePath × Tree))
  | [] => []
  | (name, t) :: entries =>
      (name, tour skip (path.child name) t) :: tourEntries skip path entries
end

/-- `stop? w skip deepest visited` is what stops a walk where it comes to; `deepest` is how many
names the paths of directories may have at most, and one more. -/
def stop? (w : World) (skip : List String) (deepest : Nat) (visited : FilePath × Tree) :
    Option Halt :=
  match untold? w visited.1 with
  | some e => some (.system e)
  | none =>
      if !visited.2.isDirectory then none
      else if deepest ≤ visited.1.parts.length then some (.tooDeep w.host.tooDeep)
      else if !skip.contains visited.1.name && w.denied.list.contains visited.1.text then
        some (.fault (.unlisted visited.1.text))
      else none

/-- `isFound w suffix visited` says that a walk finds what it comes to: no directory and no link to
one, with the suffix that is looked for. -/
def isFound (w : World) (suffix : String) (visited : FilePath × Tree) : Bool :=
  !visited.2.isDirectory && !(visited.2.isLink && w.hasDirectory visited.1 matches .ok true) &&
    visited.1.suffix == suffix

/-- `survey w suffix skip deepest visits` is the outcome of a walk that comes to `visits`. -/
def survey (w : World) (suffix : String) (skip : List String) (deepest : Nat)
    (visits : List (FilePath × Tree)) : Except Halt (List FilePath) :=
  match visits.findSome? (stop? w skip deepest) with
  | some halt => .error halt
  | none => .ok ((visits.filter (isFound w suffix)).map (·.1))

variable {w : World} {suffix : String} {skip : List String} {deepest depth : Nat}

/-! ## A walk is a survey of its tour -/

/-- Sorting by name looks at names only. -/
theorem sort_by_name_map {α β : Type} (f : String × α → β) (entries : List (String × α)) :
    sortByName (entries.map fun entry => (entry.1, f entry)) =
      (sortByName entries).map fun entry => (entry.1, f entry) := by
  unfold sortByName
  symm
  apply List.map_mergeSort
  intro _ _ _ _
  rfl

/-- Each entry of a directory is visited. -/
theorem visit_entries_eq_map (path : FilePath) (entries : List (String × Tree)) :
    visitEntries w suffix skip depth path entries =
      entries.map fun entry => (entry.1, (told w (path.child entry.1)).andThen
        (visit w suffix skip depth (path.child entry.1) entry.2)) := by
  induction entries with
  | nil => rfl
  | cons entry entries ih => simp [visitEntries, ih]

/-- Each entry of a directory is toured. -/
theorem tour_entries_eq_map (path : FilePath) (entries : List (String × Tree)) :
    tourEntries skip path entries =
      entries.map fun entry => (entry.1, tour skip (path.child entry.1) entry.2) := by
  induction entries with
  | nil => rfl
  | cons entry entries ih => simp [tourEntries, ih]

/-- A directory that is listed is visited entry by entry, in the order of the names. -/
theorem visit_directory {path : FilePath} {entries : List (String × Tree)}
    (hskip : path.name ∉ skip) (hlist : path.text ∉ w.denied.list) :
    visit w suffix skip (depth + 1) path (.directory entries) =
      .all ((sortByName entries).map fun entry => (told w (path.child entry.1)).andThen
        (visit w suffix skip depth (path.child entry.1) entry.2)) := by
  simp only [visit, List.contains_iff_mem, hskip, hlist, ↓reduceIte]
  rw [visit_entries_eq_map, sort_by_name_map, List.map_map]
  rfl

/-- A directory that is not skipped is toured entry by entry, in the order of the names. -/
theorem tour_directory {path : FilePath} {entries : List (String × Tree)}
    (hskip : path.name ∉ skip) :
    tour skip path (.directory entries) = (path, .directory entries) ::
      (sortByName entries).flatMap fun entry => tour skip (path.child entry.1) entry.2 := by
  simp only [tour, List.contains_iff_mem, hskip, ↓reduceIte]
  rw [tour_entries_eq_map, sort_by_name_map, List.map_map, List.flatMap_def]
  rfl

/-- The tour of a directory that is skipped ends there. -/
theorem tour_skipped {path : FilePath} {entries : List (String × Tree)}
    (hskip : path.name ∈ skip) :
    tour skip path (.directory entries) = [(path, .directory entries)] := by
  simp [tour, hskip]

/-- One walk after the other finds what both find. -/
theorem result_and_then (a b : Walk) :
    (a.andThen b).result = a.result.bind fun found => b.result.map (found ++ ·) := by
  obtain ⟨events, found, halt⟩ := a
  obtain ⟨events', found', halt'⟩ := b
  cases halt with
  | some halt => rfl
  | none => cases halt' <;> rfl

/-- The survey of two tours is the survey of one after the other. -/
theorem survey_append (a b : List (FilePath × Tree)) :
    survey w suffix skip deepest (a ++ b) =
      (survey w suffix skip deepest a).bind fun found =>
        (survey w suffix skip deepest b).map (found ++ ·) := by
  unfold survey
  rw [List.findSome?_append]
  cases a.findSome? (stop? w skip deepest) with
  | some halt => rfl
  | none =>
      cases b.findSome? (stop? w skip deepest) with
      | some halt => rfl
      | none => simp [Except.bind, Except.map]

/-- A survey ends with what stops it first. -/
theorem survey_stopped {visited : FilePath × Tree} {visits : List (FilePath × Tree)} {halt : Halt}
    (hstop : stop? w skip deepest visited = some halt) :
    survey w suffix skip deepest (visited :: visits) = .error halt := by
  rw [survey, List.findSome?_cons_of_isSome (by rw [hstop]; rfl), hstop]

/-- What stops no walk and is not found does not count in a survey. -/
theorem survey_cons {visited : FilePath × Tree} {visits : List (FilePath × Tree)}
    (hstop : stop? w skip deepest visited = none) (hfound : isFound w suffix visited = false) :
    survey w suffix skip deepest (visited :: visits) = survey w suffix skip deepest visits := by
  simp [survey, hstop, hfound]

/-- Walks that are surveys, one after the other, are the survey of all they come to. -/
theorem result_all {α : Type} (items : List α) (walkOf : α → Walk)
    (tourOf : α → List (FilePath × Tree))
    (h : ∀ item ∈ items, (walkOf item).result = survey w suffix skip deepest (tourOf item)) :
    (Walk.all (items.map walkOf)).result =
      survey w suffix skip deepest (items.flatMap tourOf) := by
  induction items with
  | nil => rfl
  | cons item items ih =>
      rw [List.map_cons, Walk.all, result_and_then, h item (by simp),
        ih fun other hother => h other (List.mem_cons_of_mem _ hother), List.flatMap_cons,
        survey_append]

/-- A tour starts where it does. -/
theorem exists_tour_eq_cons (skip : List String) (path : FilePath) (t : Tree) :
    ∃ rest, tour skip path t = (path, t) :: rest := by
  cases t <;> simp [tour]

/-- Where a walk comes to is asked for what lies there, and then walked over. -/
theorem result_told_and_then (path : FilePath) (walk : Walk) :
    ((told w path).andThen walk).result =
      match untold? w path with
      | some e => .error (.system e)
      | none => walk.result := by
  unfold told
  cases untold? w path with
  | some e => rfl
  | none =>
      obtain ⟨events, found, halt⟩ := walk
      cases halt <;> rfl

/-- What is told of a path says whether a directory lies there. -/
theorem has_directory_of_told {path : FilePath} (h : untold? w path = none) :
    ∃ answer, w.hasDirectory path = .ok answer := by
  unfold untold? at h
  split at h
  · cases h
  · cases h
  · next answer _ hanswer => exact ⟨answer, hanswer⟩

/-- The system tells what an entry is unless it does not look at the entry, or cannot follow the
link that the entry is. -/
theorem untold?_eq {path : FilePath} {here : List String} {u : Tree}
    (hnul : World.hasNul path = false) (hentry : w.findEntry path = .ok (here, u)) :
    untold? w path =
      match w.refusal? path with
      | some e => some e
      | none =>
          match World.answer Tree.isDirectory path (w.find path) with
          | .error e => some e
          | .ok _ => none := by
  rw [untold?, World.hasLink, World.hasDirectory, World.lstat, World.stat, World.holds_asked,
    World.holds_asked, hnul, hentry]
  cases w.refusal? path with
  | some e => rfl
  | none =>
      simp only [Bool.false_eq_true, ↓reduceIte, World.answer]
      split <;> simp_all

/-- A walk that is not told what an entry is is stopped there, as a survey is. -/
theorem untold_result {path : FilePath} {e : SystemError} (h : untold? w path = some e)
    (walk : Walk) (t : Tree) :
    ((told w path).andThen walk).result = survey w suffix skip deepest (tour skip path t) := by
  obtain ⟨rest, htour⟩ := exists_tour_eq_cons skip path t
  rw [result_told_and_then, h, htour, survey_stopped (by rw [stop?, h])]

/-- A file is found if its suffix is the one that is looked for. -/
theorem file_result {path : FilePath} (htold : untold? w path = none) (content : List UInt8) :
    (visit w suffix skip depth path (.file content)).result =
      survey w suffix skip deepest (tour skip path (.file content)) := by
  by_cases hsuffix : path.suffix = suffix <;>
    simp [visit, pick, tour, survey, stop?, isFound, htold, Tree.isDirectory, Tree.isLink,
      Walk.result, Walk.nothing, hsuffix]

/-- A link is passed over if it leads to a directory, and else is like a file. -/
theorem link_result {path : FilePath} (htold : untold? w path = none) (target : String) :
    (visit w suffix skip depth path (.link target)).result =
      survey w suffix skip deepest (tour skip path (.link target)) := by
  obtain ⟨answer, hanswer⟩ := has_directory_of_told htold
  cases answer <;> by_cases hsuffix : path.suffix = suffix <;>
    simp [visit, pick, tour, survey, stop?, isFound, htold, Tree.isDirectory, Tree.isLink,
      Walk.result, Walk.nothing, Walk.noting, hanswer, hsuffix]

/-- A directory is too deep, passed over, stops the walk, or is entered; if walks over its entries
are surveys, so is the walk over the directory. -/
theorem directory_result {path : FilePath} {entries : List (String × Tree)}
    (htold : untold? w path = none)
    (hentries : ∀ entry ∈ entries, ∀ depth,
      ((told w (path.child entry.1)).andThen
          (visit w suffix skip depth (path.child entry.1) entry.2)).result =
        survey w suffix skip ((path.child entry.1).parts.length + depth)
          (tour skip (path.child entry.1) entry.2)) :
    (visit w suffix skip depth path (.directory entries)).result =
      survey w suffix skip (path.parts.length + depth) (tour skip path (.directory entries)) := by
  have hfound : isFound w suffix (path, .directory entries) = false := by
    simp [isFound, Tree.isDirectory]
  obtain ⟨rest, htour⟩ := exists_tour_eq_cons skip path (.directory entries)
  cases depth with
  | zero =>
      have hstop : stop? w skip (path.parts.length + 0) (path, .directory entries) =
          some (.tooDeep w.host.tooDeep) := by simp [stop?, htold, Tree.isDirectory]
      rw [htour, survey_stopped hstop]
      rfl
  | succ depth =>
      by_cases hskip : path.name ∈ skip
      · have hstop : stop? w skip (path.parts.length + (depth + 1)) (path, .directory entries) =
            none := by simp [stop?, htold, hskip]
        rw [tour_skipped hskip, survey_cons hstop hfound]
        simp [visit, hskip, survey, Walk.result, Walk.noting]
      by_cases hlist : path.text ∈ w.denied.list
      · have hstop : stop? w skip (path.parts.length + (depth + 1)) (path, .directory entries) =
            some (.fault (.unlisted path.text)) := by
          simp [stop?, htold, hskip, hlist, Tree.isDirectory]
        rw [htour, survey_stopped hstop]
        simp [visit, hskip, hlist, Walk.result, Walk.stopped]
      · have hstop : stop? w skip (path.parts.length + (depth + 1)) (path, .directory entries) =
            none := by simp [stop?, htold, hlist]
        rw [visit_directory hskip hlist, tour_directory hskip, survey_cons hstop hfound]
        apply result_all
        intro entry hentry
        have hdown := hentries entry (List.mem_mergeSort.1 hentry) depth
        have hlength : (path.child entry.1).parts.length = path.parts.length + 1 := by
          simp [FilePath.child]
        rwa [hlength, Nat.add_right_comm, Nat.add_assoc] at hdown

/-- A walk over an entry is the survey of its tour. -/
theorem entry_result (depth : Nat) (path : FilePath) (t : Tree) :
    ((told w path).andThen (visit w suffix skip depth path t)).result =
      survey w suffix skip (path.parts.length + depth) (tour skip path t) := by
  induction t using Tree.ind generalizing depth path with
  | file content =>
      cases htold : untold? w path with
      | some e => exact untold_result htold _ _
      | none => rw [result_told_and_then, htold, file_result htold]
  | link target =>
      cases htold : untold? w path with
      | some e => exact untold_result htold _ _
      | none => rw [result_told_and_then, htold, link_result htold]
  | directory entries ih =>
      cases htold : untold? w path with
      | some e => exact untold_result htold _ _
      | none =>
          rw [result_told_and_then, htold, directory_result htold]
          exact fun entry hentry depth => ih entry hentry depth (path.child entry.1)

/-! ## What a tour comes to -/

variable {root path q : FilePath} {t u : Tree} {entries : List (String × Tree)} {name : String}

/-- What is in the tour of an entry is in the tour of its directory. -/
theorem tour_subset_directory (hskip : path.name ∉ skip) (hmem : (name, u) ∈ entries) :
    tour skip (path.child name) u ⊆ tour skip path (.directory entries) := by
  intro visited hvisited
  rw [tour_directory hskip]
  refine List.mem_cons_of_mem _ (List.mem_flatMap.2 ⟨(name, u), ?_, hvisited⟩)
  exact List.mem_mergeSort.2 hmem

/-- A tour starts at its root. -/
theorem root_mem_tour (skip : List String) (path : FilePath) (t : Tree) :
    (path, t) ∈ tour skip path t := by
  obtain ⟨rest, htour⟩ := exists_tour_eq_cons skip path t
  rw [htour]
  exact List.mem_cons_self

/-- What lies in the tour of a directory is the directory or in the tour of an entry. -/
theorem mem_tour_directory (h : (q, u) ∈ tour skip path (.directory entries)) :
    (q, u) = (path, .directory entries) ∨
      path.name ∉ skip ∧ ∃ entry ∈ entries, (q, u) ∈ tour skip (path.child entry.1) entry.2 := by
  by_cases hskip : path.name ∈ skip
  · rw [tour_skipped hskip] at h
    exact .inl (List.mem_singleton.1 h)
  · rw [tour_directory hskip] at h
    rcases List.mem_cons.1 h with h | h
    · exact .inl h
    · obtain ⟨entry, hentry, h⟩ := List.mem_flatMap.1 h
      exact .inr ⟨hskip, entry, List.mem_mergeSort.1 hentry, h⟩

/-- The entries of a directory that a tour comes to, and does not skip, are in the tour. -/
theorem entry_mem_tour (h : (q, .directory entries) ∈ tour skip path t) (hskip : q.name ∉ skip)
    (hmem : (name, u) ∈ entries) : (q.child name, u) ∈ tour skip path t := by
  induction t using Tree.ind generalizing path with
  | file content => simp [tour] at h
  | link target => simp [tour] at h
  | directory others ih =>
      rcases mem_tour_directory h with heq | ⟨hpath, entry, hentry, h⟩
      · cases heq
        exact tour_subset_directory hskip hmem (root_mem_tour skip _ u)
      · exact tour_subset_directory hpath hentry (ih entry hentry h)

/-- What is reached from an entry is reached from its directory. -/
theorem Reaches.of_entry (hskip : path.name ∉ skip) (hmem : (name, t) ∈ entries)
    (h : Reaches skip (path.child name) t q u) : Reaches skip path (.directory entries) q u := by
  induction h with
  | root => exact .entry .root hskip hmem
  | entry _ hname hentry ih => exact .entry ih hname hentry

/-- A tour comes to what is reached, and to nothing else. -/
theorem mem_tour_iff : (q, u) ∈ tour skip path t ↔ Reaches skip path t q u := by
  constructor
  · intro h
    induction t using Tree.ind generalizing path with
    | file content =>
        simp only [tour, List.mem_singleton] at h
        cases h
        exact .root
    | link target =>
        simp only [tour, List.mem_singleton] at h
        cases h
        exact .root
    | directory entries ih =>
        rcases mem_tour_directory h with heq | ⟨hskip, entry, hentry, h⟩
        · cases heq
          exact .root
        · exact (ih entry hentry h).of_entry hskip hentry
  · intro h
    induction h with
    | root => exact root_mem_tour skip path t
    | entry _ hskip hmem ih => exact entry_mem_tour ih hskip hmem

/-- A tour over a well-formed tree stays at or below its root. -/
theorem eq_or_below_of_mem_tour (ht : t.WellFormed) (h : (q, u) ∈ tour skip path t) :
    q = path ∨ FilePath.Below path q := by
  induction t using Tree.ind generalizing path with
  | file content =>
      simp only [tour, List.mem_singleton, Prod.mk.injEq] at h
      exact .inl h.1
  | link target =>
      simp only [tour, List.mem_singleton, Prod.mk.injEq] at h
      exact .inl h.1
  | directory entries ih =>
      rcases mem_tour_directory h with heq | ⟨_, entry, hentry, h⟩
      · cases heq
        exact .inl rfl
      · have hname := ht.name_ok hentry
        rcases ih entry hentry (ht.entry hentry) h with rfl | hbelow
        · exact .inr (FilePath.below_child hname)
        · exact .inr (hbelow.of_child hname)

/-- What a tour over a directory comes to beside the directory is below it. -/
theorem below_of_mem_tour (ht : t.WellFormed) (hdirectory : t.isDirectory = true)
    (h : (q, u) ∈ tour skip path t) (hu : u.isDirectory = false) : FilePath.Below path q := by
  cases t with
  | file content => cases hdirectory
  | link target => cases hdirectory
  | directory entries =>
      rcases mem_tour_directory h with heq | ⟨_, entry, hentry, h⟩
      · cases heq
        cases hu
      · have hname := ht.name_ok hentry
        rcases eq_or_below_of_mem_tour (ht.entry hentry) h with rfl | hbelow
        · exact FilePath.below_child hname
        · exact hbelow.of_child hname

/-- Tours over two entries of different names have no path in common. -/
theorem tours_disjoint {a b : String × Tree} (ha : a.2.WellFormed) (hb : b.2.WellFormed)
    (hne : a.1 ≠ b.1) :
    ((tour skip (path.child a.1) a.2).map (·.1)).Disjoint
      ((tour skip (path.child b.1) b.2).map (·.1)) := by
  intro p hpa hpb
  obtain ⟨⟨_, u⟩, hu, rfl⟩ := List.mem_map.1 hpa
  obtain ⟨⟨_, v⟩, hv, rfl⟩ := List.mem_map.1 hpb
  obtain ⟨more, hmore⟩ := FilePath.parts_of_eq_or_below (eq_or_below_of_mem_tour ha hu)
  obtain ⟨more', hmore'⟩ := FilePath.parts_of_eq_or_below (eq_or_below_of_mem_tour hb hv)
  -- Both paths go on behind `path`, each with the name of its own entry.
  rw [hmore] at hmore'
  simp only [FilePath.child, List.append_assoc, List.append_cancel_left_eq] at hmore'
  exact hne (List.cons.inj hmore').1

/-- A tour over a well-formed tree comes to no path twice. -/
theorem tour_nodup (ht : t.WellFormed) : ((tour skip path t).map (·.1)).Nodup := by
  induction t using Tree.ind generalizing path with
  | file content => simp [tour]
  | link target => simp [tour]
  | directory entries ih =>
      by_cases hskip : path.name ∈ skip
      · simp [tour_skipped hskip]
      rw [tour_directory hskip, List.map_cons, List.nodup_cons, List.map_flatMap]
      constructor
      · -- The directory itself lies above all that follows.
        intro hmem
        obtain ⟨entry, hentry, hmem⟩ := List.mem_flatMap.1 hmem
        obtain ⟨⟨q, u⟩, hmem, rfl⟩ := List.mem_map.1 hmem
        have hentry := List.mem_mergeSort.1 hentry
        have hname := ht.name_ok hentry
        rcases eq_or_below_of_mem_tour (ht.entry hentry) hmem with heq | hbelow
        · exact (FilePath.below_child hname).ne heq.symm
        · exact (hbelow.of_child hname).ne rfl
      · have hperm : (sortByName entries).Perm entries := List.mergeSort_perm _ _
        have hnames : ((sortByName entries).map (·.1)).Nodup :=
          (hperm.map _).nodup_iff.2 ht.names_nodup
        refine List.nodup_flatMap.2 ⟨?_, ?_⟩
        · intro entry hentry
          have hentry := List.mem_mergeSort.1 hentry
          exact ih entry hentry (ht.entry hentry)
        · refine (List.pairwise_map.1 hnames).imp_of_mem ?_
          intro a b ha hb hne
          exact tours_disjoint (ht.entry (List.mem_mergeSort.1 ha))
            (ht.entry (List.mem_mergeSort.1 hb)) hne

/-! ## Discovery as a whole -/

variable {extension : String} {paths : List FilePath} {place : List String}

/-- Where something surely lies at the root, it is told what does. -/
theorem told_root (hhas : w.has root = .ok true) : untold? w root = none := by
  obtain ⟨hnul, hlook, place, t, hfind⟩ := World.has_eq_true_iff.1 hhas
  obtain ⟨here, u, hentry⟩ := World.find_entry_of_find hfind
  rw [untold?_eq hnul hentry, hlook, hfind]
  rfl

/-- Discovery surveys the tour over the directory at the root. -/
theorem discover_of_find (hhas : w.has root = .ok true) (hfind : w.find root = .ok (place, t))
    (ht : t.isDirectory = true) :
    discover w root extension skip =
      survey w ("." ++ extension) skip (root.parts.length + w.host.depths.walk)
        (tour skip root t) := by
  have hvisit : ((told w root).andThen
      (visit w ("." ++ extension) skip w.host.depths.walk root t)).result = _ :=
    entry_result w.host.depths.walk root t
  rw [result_told_and_then, told_root hhas] at hvisit
  simp only [discover, walk, hhas, hfind, ht, ↓reduceIte]
  rw [result_and_then, ← hvisit]
  cases (visit w ("." ++ extension) skip w.host.depths.walk root t).result with
  | error halt => rfl
  | ok found => simp [Walk.result, Walk.noting, Except.bind, Except.map]

/-- What is no directory is not walked over. -/
theorem discover_of_not_directory (hhas : w.has root = .ok true)
    (hfind : w.find root = .ok (place, t)) (ht : t.isDirectory = false) :
    discover w root extension skip = .error (.fault (.rootNotDirectory root.text)) := by
  simp [discover, walk, hhas, hfind, ht, Walk.result, Walk.stopped]

/-- Where nothing surely lies at the root, nothing is walked over. -/
theorem discover_of_not_has (hhas : w.has root ≠ .ok true) :
    discover w root extension skip =
      match w.has root with
      | .error e => .error (.system e)
      | .ok _ => .error (.fault (.noRoot root.text)) := by
  unfold discover walk
  cases h : w.has root with
  | error e => rfl
  | ok answer =>
      cases answer with
      | true => exact absurd h hhas
      | false => rfl

/-- A discovery that succeeds has surveyed the directory at the root. -/
theorem survey_of_discover (h : discover w root extension skip = .ok paths) :
    w.has root = .ok true ∧ ∃ place t, w.find root = .ok (place, t) ∧ t.isDirectory = true ∧
      survey w ("." ++ extension) skip (root.parts.length + w.host.depths.walk)
        (tour skip root t) = .ok paths := by
  by_cases hhas : w.has root = .ok true
  · obtain ⟨-, -, place, t, hfind⟩ := World.has_eq_true_iff.1 hhas
    cases ht : t.isDirectory with
    | false =>
        rw [discover_of_not_directory hhas hfind ht] at h
        cases h
    | true => exact ⟨hhas, place, t, hfind, ht, by rw [← discover_of_find hhas hfind ht, h]⟩
  · rw [discover_of_not_has hhas] at h
    split at h <;> cases h

/-- What stops a walk is the refusal to tell what an entry is, or, where it is a directory, the
depth or the refusal to list it. -/
theorem stop?_eq_some_iff {halt : Halt} :
    stop? w skip deepest (q, u) = some halt ↔
      (∃ e, untold? w q = some e ∧ Halt.system e = halt) ∨
      untold? w q = none ∧ u.isDirectory = true ∧
        (deepest ≤ q.parts.length ∧ Halt.tooDeep w.host.tooDeep = halt ∨
          q.parts.length < deepest ∧ q.name ∉ skip ∧
            q.text ∈ w.denied.list ∧ Halt.fault (.unlisted q.text) = halt) := by
  unfold stop?
  cases untold? w q with
  | some e => simp
  | none =>
      cases u.isDirectory with
      | false => simp
      | true =>
          by_cases hdeep : deepest ≤ q.parts.length
          · simp [hdeep, Nat.not_lt.2 hdeep]
          · simp [hdeep, Nat.lt_of_not_le hdeep, and_assoc]

/-- What stops a walk is an entry of which nothing is told, or a directory. -/
theorem is_some_stop?_iff {visited : FilePath × Tree} :
    (stop? w skip deepest visited).isSome ↔
      (untold? w visited.1).isSome ∨ visited.2.isDirectory = true ∧
        (deepest ≤ visited.1.parts.length ∨
          visited.1.name ∉ skip ∧ visited.1.text ∈ w.denied.list) := by
  unfold stop?
  cases untold? w visited.1 with
  | some e => simp
  | none =>
      cases visited.2.isDirectory with
      | false => simp
      | true =>
          by_cases hdeep : deepest ≤ visited.1.parts.length
          · simp [hdeep]
          · simp only [hdeep, Bool.not_true, Bool.false_eq_true, ↓reduceIte, false_or]
            split <;> simp_all

/-- A survey fails where something stops it. -/
theorem survey_error_iff {visits : List (FilePath × Tree)} :
    (∃ halt, survey w suffix skip deepest visits = .error halt) ↔
      ∃ visited ∈ visits, (stop? w skip deepest visited).isSome := by
  have hsome : (∃ halt, survey w suffix skip deepest visits = .error halt) ↔
      (visits.findSome? (stop? w skip deepest)).isSome := by
    unfold survey
    cases visits.findSome? (stop? w skip deepest) <;> simp
  rw [hsome, List.isSome_findSome?, List.any_eq_true]

/-- Discovery fails exactly when the project cannot be walked, whatever is looked for. -/
theorem discover_error_iff (extension : String) :
    (∃ halt, discover w root extension skip = .error halt) ↔ Unwalkable w root skip := by
  by_cases hhas : w.has root = .ok true
  · obtain ⟨-, -, place, t, hfind⟩ := World.has_eq_true_iff.1 hhas
    cases ht : t.isDirectory with
    | false =>
        rw [discover_of_not_directory hhas hfind ht]
        exact ⟨fun _ => .inr (.inl ⟨place, t, hfind, ht⟩), fun _ => ⟨_, rfl⟩⟩
    | true =>
        rw [discover_of_find hhas hfind ht, survey_error_iff]
        constructor
        · intro hstop
          obtain ⟨⟨q, u⟩, hmem, hstop⟩ := hstop
          exact .inr (.inr ⟨place, t, q, u, hfind, mem_tour_iff.1 hmem, is_some_stop?_iff.1 hstop⟩)
        · rintro (hno | ⟨place', t', hfind', hno⟩ | ⟨place', t', q, u, hfind', hreach, hstop⟩)
          · exact absurd hhas hno
          · rw [hfind] at hfind'
            cases hfind'
            rw [ht] at hno
            cases hno
          · rw [hfind] at hfind'
            cases hfind'
            exact ⟨(q, u), mem_tour_iff.2 hreach, is_some_stop?_iff.2 hstop⟩
  · refine ⟨fun _ => .inl hhas, fun _ => ?_⟩
    rw [discover_of_not_has hhas]
    split
    · exact ⟨_, rfl⟩
    · exact ⟨_, rfl⟩

/-- What stops a discovery does not depend on what is looked for. -/
theorem discover_error_congr (other : String) {halt : Halt}
    (h : discover w root extension skip = .error halt) :
    discover w root other skip = .error halt := by
  by_cases hhas : w.has root = .ok true
  · obtain ⟨-, -, place, t, hfind⟩ := World.has_eq_true_iff.1 hhas
    cases ht : t.isDirectory with
    | false => rwa [discover_of_not_directory hhas hfind ht] at h ⊢
    | true =>
        -- What stops a survey is looked for without regard to the suffix.
        rw [discover_of_find hhas hfind ht, survey] at h ⊢
        split at h
        · exact h
        · cases h
  · rwa [discover_of_not_has hhas] at h ⊢

/-- Discovery of another extension succeeds where one succeeds. -/
theorem discover_ok_of_ok (other : String) (h : discover w root extension skip = .ok paths) :
    ∃ others, discover w root other skip = .ok others := by
  cases hother : discover w root other skip with
  | ok others => exact ⟨others, rfl⟩
  | error halt =>
      rw [discover_error_congr extension hother] at h
      cases h

/-- What a survey finds is part of what it surveys. -/
theorem paths_of_survey {visits : List (FilePath × Tree)}
    (h : survey w suffix skip deepest visits = .ok paths) :
    paths = (visits.filter (isFound w suffix)).map (·.1) := by
  unfold survey at h
  split at h
  · cases h
  · exact (Except.ok.inj h).symm

/-- The files found in a well-formed tree are below the root. -/
theorem below_of_mem_discover (hw : w.tree.WellFormed)
    (h : discover w root extension skip = .ok paths) (hq : q ∈ paths) :
    FilePath.Below root q := by
  obtain ⟨-, place, t, hfind, hdirectory, hsurvey⟩ := survey_of_discover h
  rw [paths_of_survey hsurvey] at hq
  obtain ⟨⟨_, u⟩, hmem, rfl⟩ := List.mem_map.1 hq
  obtain ⟨hmem, hfound⟩ := List.mem_filter.1 hmem
  have hu : u.isDirectory = false := by
    simp only [isFound, Bool.and_eq_true, Bool.not_eq_true'] at hfound
    exact hfound.1.1
  exact below_of_mem_tour (World.find_well_formed hw hfind) hdirectory hmem hu

/-- No file of a well-formed tree is found twice. -/
theorem discover_nodup (hw : w.tree.WellFormed)
    (h : discover w root extension skip = .ok paths) : paths.Nodup := by
  obtain ⟨-, place, t, hfind, -, hsurvey⟩ := survey_of_discover h
  rw [paths_of_survey hsurvey]
  have hsublist := (List.filter_sublist (p := isFound w ("." ++ extension))
    (l := tour skip root t)).map (·.1)
  exact (tour_nodup (World.find_well_formed hw hfind)).sublist hsublist

/-- A file found in a well-formed tree has a path that can be read. -/
theorem has_nul_of_mem_discover (hw : w.tree.WellFormed)
    (h : discover w root extension skip = .ok paths) (hq : q ∈ paths) :
    World.hasNul q = false := by
  obtain ⟨-, place, t, hfind, -, -⟩ := survey_of_discover h
  exact FilePath.has_nul_of_below (World.no_nul_of_find hw hfind) (below_of_mem_discover hw h hq)

end SceneLint.Discovery
