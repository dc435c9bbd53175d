import Mathlib.Data.List.Basic
import SceneLint.Proofs.Path.Below

/-!
# Going down from a directory

A path that leads to a directory and goes on through names of entries leads to what lies below that
directory. `find_entry_descend` says so of the entry itself, where a link at the end is not
followed, and `find_descend` of anything but a link. Both rest on `walk_links_append`: once a path
has led somewhere, the names behind it are followed from there, with the links that are left.
-/

namespace SceneLint

namespace Tree

variable {t below : Tree} {entries : List (String × Tree)} {name : String}

/-- What lies at one list of names behind another lies below what lies at the first. -/
theorem lookup_append (a b : List String) (t : Tree) :
    lookup (a ++ b) t = (lookup a t).bind (lookup b) := by
  fun_induction lookup a t with
  | case1 t => rfl
  | case2 name names entries child hchild ih => simp [lookup, hchild, ih]
  | case3 name names entries hchild => simp [lookup, hchild]
  | case4 name names t hdirectory =>
      cases t with
      | directory entries => exact absurd rfl (hdirectory entries)
      | file content => rfl
      | link target => rfl

/-- What lies at a single name is the entry of that name. -/
theorem lookup_singleton : lookup [name] (.directory entries) = child? name entries := by
  cases hchild : child? name entries <;> simp [lookup, hchild]

/-- What lies one name behind others is an entry of the directory that lies there. -/
theorem lookup_concat_iff {front : List String} :
    lookup (front ++ [name]) t = some below ↔
      ∃ entries, lookup front t = some (.directory entries) ∧
        child? name entries = some below := by
  rw [lookup_append, Option.bind_eq_some_iff]
  constructor
  · intro hlookup
    obtain ⟨here, hfront, hlast⟩ := hlookup
    cases here with
    | file content => cases hlast
    | link target => cases hlast
    | directory entries => exact ⟨entries, hfront, lookup_singleton ▸ hlast⟩
  · intro hentry
    obtain ⟨entries, hfront, hchild⟩ := hentry
    exact ⟨_, hfront, lookup_singleton.trans hchild⟩

/-- An entry of a well-formed directory is found under its name. -/
theorem WellFormed.child? (h : WellFormed (.directory entries)) (hmem : (name, below) ∈ entries) :
    Tree.child? name entries = some below := by
  have hnodup := h.names_nodup
  clear h
  induction entries with
  | nil => cases hmem
  | cons entry entries ih =>
      obtain ⟨n, t⟩ := entry
      rw [List.map_cons, List.nodup_cons] at hnodup
      rcases List.mem_cons.1 hmem with heq | hmem
      · cases heq
        simp [Tree.child?]
      · have hne : n ≠ name := by
          rintro rfl
          exact hnodup.1 (List.mem_map.2 ⟨_, hmem, rfl⟩)
        simp [Tree.child?, hne, ih hmem hnodup.2]

end Tree

namespace World

variable {tree t : Tree} {follow : Bool} {place names more : List String}

/-! ## Names behind names -/

/-- Following more names behind names goes on from where these have led. -/
theorem walk_append (hmore : more ≠ []) :
    walk tree follow place (names ++ more) =
      match walk tree true place names with
      | .found here _ => walk tree follow here more
      | .refused fault => .refused fault
      | .link here target rest => .link here target (rest ++ more) := by
  induction names generalizing place with
  | nil =>
      obtain ⟨name, rest, rfl⟩ := List.exists_cons_of_ne_nil hmore
      cases hplace : tree.lookup place <;> simp [walk, hplace]
  | cons name names ih =>
      simp only [List.cons_append, walk]
      cases hplace : tree.lookup place with
      | none => rfl
      | some here =>
          cases here with
          | file content => rfl
          | link target => rfl
          | directory entries =>
              by_cases hup : name = ".."
              · simp [hup, ih]
              by_cases hstay : name = "."
              · simp [hstay, ih]
              by_cases hlong : nameLimit < name.utf8ByteSize
              · simp [hup, hstay, hlong]
              simp only [hup, hstay, hlong, ↓reduceIte]
              cases hchild : Tree.child? name entries with
              | none => rfl
              | some below => cases below <;> simp [hmore, ih]

/-- What names lead to lies where they lead. -/
theorem lookup_of_walk {here : List String} (h : walk tree follow place names = .found here t) :
    tree.lookup here = some t := by
  fun_induction walk tree follow place names with
  | case1 place t' hplace =>
      cases h
      exact hplace
  | case2 => cases h
  | case3 place names entries hplace ih => exact ih h
  | case4 place names entries hplace hne ih => exact ih h
  | case5 => cases h
  | case6 => cases h
  | case7 place name names entries hplace hne hne' hshort target hchild hend =>
      cases h
      rw [Tree.lookup_append, hplace]
      simp [Tree.lookup_singleton, hchild]
  | case8 => cases h
  | case9 place name names entries hplace hne hne' hshort below hlink hchild ih => exact ih h
  | case10 => cases h
  | case11 => cases h

/-- What a path leads to lies where it leads. -/
theorem lookup_of_walk_links {links : Nat} {here : List String}
    (h : walkLinks tree follow links place names = .ok (here, t)) : tree.lookup here = some t := by
  fun_induction walkLinks tree follow links place names with
  | case1 links place names here' t' hstep =>
      cases h
      exact lookup_of_walk hstep
  | case2 => cases h
  | case3 => cases h
  | case4 => cases h
  | case5 place names place' target rest hstep links hne ih => exact ih h

/-- Once a way has led somewhere, the names behind it are followed from there, with the links that
are left. -/
theorem walk_links_append {links : Nat} {here : List String}
    (h : walkLinks tree true links place names = .ok (here, t)) :
    ∃ left, ∀ follow more, more ≠ [] →
      walkLinks tree follow links place (names ++ more) = walkLinks tree follow left here more := by
  fun_induction walkLinks tree true links place names with
  | case1 links place names here' t' hstep =>
      cases h
      refine ⟨links, fun follow more hmore => ?_⟩
      rw [walkLinks, walk_append hmore, hstep, ← walkLinks]
  | case2 => cases h
  | case3 => cases h
  | case4 => cases h
  | case5 place names place' target rest hstep links hne ih =>
      obtain ⟨left, hleft⟩ := ih h
      refine ⟨left, fun follow more hmore => ?_⟩
      rw [walkLinks, walk_append hmore, hstep]
      simp only [hne, ↓reduceIte]
      rw [← List.append_assoc, hleft follow more hmore]

/-! ## Links at the end of a way -/

/-- Names lead to the same end whether or not a link there is followed, or to a link. -/
theorem walk_true_eq_or (tree : Tree) (place names : List String) :
    walk tree true place names = walk tree false place names ∨
      ∃ here target, walk tree true place names = .link here target [] ∧
        ∃ end_ t, walk tree false place names = .found end_ t := by
  induction names generalizing place with
  | nil => exact .inl rfl
  | cons name names ih =>
      simp only [walk]
      cases hplace : tree.lookup place with
      | none => exact .inl rfl
      | some here =>
          cases here with
          | file content => exact .inl rfl
          | link target => exact .inl rfl
          | directory entries =>
              dsimp only
              split
              · exact ih _
              split
              · exact ih _
              split
              · exact .inl rfl
              cases hchild : Tree.child? name entries with
              | none => exact .inl rfl
              | some below =>
                  cases below with
                  | file content => exact ih _
                  | directory inner => exact ih _
                  | link target =>
                      cases names with
                      | nil => exact .inr ⟨place, target, rfl, _, _, rfl⟩
                      | cons next rest => exact .inl rfl

/-- A way that leads somewhere leads somewhere, too, where a link at its end is not followed. -/
theorem walk_links_false_of_true {links : Nat} {here : List String}
    (h : walkLinks tree true links place names = .ok (here, t)) :
    ∃ end_ u, walkLinks tree false links place names = .ok (end_, u) := by
  induction links generalizing place names with
  | zero =>
      rw [walkLinks] at h ⊢
      rcases walk_true_eq_or tree place names with heq | ⟨at_, target, heq, end_, u, hfound⟩
      · rw [← heq]
        split at h
        · exact ⟨_, _, rfl⟩
        · cases h
        · cases h
      · rw [hfound]
        exact ⟨_, _, rfl⟩
  | succ links ih =>
      rw [walkLinks] at h ⊢
      rcases walk_true_eq_or tree place names with heq | ⟨at_, target, heq, end_, u, hfound⟩
      · rw [← heq]
        split at h
        · exact ⟨_, _, rfl⟩
        · cases h
        · dsimp only at h ⊢
          split at h
          · cases h
          · next hne =>
              rw [if_neg hne]
              exact ih h
      · rw [hfound]
        exact ⟨_, _, rfl⟩

/-- Something lies at a path, as an entry, when something lies there once links are followed. -/
theorem find_entry_of_find {w : World} {p : FilePath} (h : w.find p = .ok (place, t)) :
    ∃ end_ u, w.findEntry p = .ok (end_, u) :=
  walk_links_false_of_true h

/-! ## Names of entries -/

/-- Names of entries that lead from a directory to a directory are followed down. -/
theorem walk_down {entries : List (String × Tree)} (hplace : tree.lookup place = some t)
    (hnames : ∀ name ∈ names, IsEntryName name)
    (hdirectory : t.lookup names = some (.directory entries)) :
    walk tree follow place (names ++ more) = walk tree follow (place ++ names) more := by
  induction names generalizing place t with
  | nil => simp
  | cons name names ih =>
      rw [List.forall_mem_cons] at hnames
      obtain ⟨hname, hnames⟩ := hnames
      cases t with
      | file content => cases hdirectory
      | link target => cases hdirectory
      | directory others =>
          rw [← List.singleton_append, Tree.lookup_append, Tree.lookup_singleton] at hdirectory
          obtain ⟨below, hchild, hbelow⟩ := Option.bind_eq_some_iff.1 hdirectory
          have hhere : tree.lookup (place ++ [name]) = some below := by
            rw [Tree.lookup_append, hplace, Option.bind_some, Tree.lookup_singleton, hchild]
          have hstep := ih hhere hnames hbelow
          rw [List.append_assoc, List.singleton_append] at hstep
          rw [← hstep, List.cons_append, walk, hplace]
          simp only [hname.ne_point, hname.ne_points, Nat.not_lt.2 hname.short, ↓reduceIte, hchild]
          -- No link is passed, because nothing lies below one.
          cases below with
          | file content => rfl
          | directory entries => rfl
          | link target =>
              cases names with
              | nil => cases hbelow
              | cons next rest => cases hbelow

/-- The last name of a way down leads to the entry of that name. -/
theorem walk_entry {entries : List (String × Tree)} {name : String}
    (hplace : tree.lookup place = some (.directory entries)) (hname : IsEntryName name) :
    walk tree follow place [name] =
      match Tree.child? name entries with
      | none => .refused .noEntry
      | some (.link target) =>
          if follow then .link place target [] else .found (place ++ [name]) (.link target)
      | some below => .found (place ++ [name]) below := by
  rw [walk, hplace]
  simp only [hname.ne_point, hname.ne_points, Nat.not_lt.2 hname.short, ↓reduceIte]
  cases hchild : Tree.child? name entries with
  | none => rfl
  | some below =>
      have hhere : tree.lookup (place ++ [name]) = some below := by
        rw [Tree.lookup_append, hplace, Option.bind_some, Tree.lookup_singleton, hchild]
      cases below with
      | link target => cases follow <;> rfl
      | file content => simp [walk, hhere]
      | directory below => simp [walk, hhere]

variable {w : World} {root : FilePath} {entries : List (String × Tree)} {front : List String}
  {name : String} {u : Tree}

/-- A way down is followed to its last directory, with the links that are left there. -/
theorem walk_links_descend (hroot : w.find root = .ok (place, t))
    (hfront : t.lookup front = some (.directory entries))
    (hnames : ∀ other ∈ front, IsEntryName other) (name : String) :
    ∃ left, ∀ follow,
      walkLinks w.tree follow linkLimit (w.startOf root) (root.parts ++ (front ++ [name])) =
        walkLinks w.tree follow left (place ++ front) [name] := by
  have htree := lookup_of_walk_links hroot
  obtain ⟨left, hleft⟩ := walk_links_append hroot
  refine ⟨left, fun follow => ?_⟩
  rw [hleft follow _ (by simp), walkLinks, walk_down htree hnames hfront, ← walkLinks]

/-- The last directory of a way down lies where the way leads. -/
theorem lookup_place_append (hroot : w.find root = .ok (place, t)) (hu : t.lookup names = some u) :
    w.tree.lookup (place ++ names) = some u := by
  rw [Tree.lookup_append, lookup_of_walk_links hroot, Option.bind_some, hu]

/-- The entry at the end of a way down is the one that the last directory holds. -/
theorem find_entry_descend_concat (hroot : w.find root = .ok (place, t))
    (hfront : t.lookup front = some (.directory entries))
    (hnames : ∀ other ∈ front, IsEntryName other) (hname : IsEntryName name) :
    w.findEntry (root.descend (front ++ [name])) =
      match Tree.child? name entries with
      | none => .error .noEntry
      | some below => .ok (place ++ (front ++ [name]), below) := by
  obtain ⟨left, hleft⟩ := walk_links_descend hroot hfront hnames name
  have hstart : w.startOf (root.descend (front ++ [name])) = w.startOf root := rfl
  rw [findEntry, hstart, FilePath.descend, hleft, walkLinks,
    walk_entry (lookup_place_append hroot hfront) hname]
  cases Tree.child? name entries with
  | none => rfl
  | some below => cases below <;> simp

/-- An entry found one name behind a directory lies in that directory. -/
theorem lookup_of_find_entry {here : List String} (hroot : w.find root = .ok (place, t))
    (hfront : t.lookup front = some (.directory entries))
    (hnames : ∀ other ∈ front, IsEntryName other) (hname : IsEntryName name)
    (h : w.findEntry (root.descend (front ++ [name])) = .ok (here, u)) :
    t.lookup (front ++ [name]) = some u := by
  rw [find_entry_descend_concat hroot hfront hnames hname] at h
  cases hchild : Tree.child? name entries with
  | none =>
      rw [hchild] at h
      cases h
  | some below =>
      rw [hchild] at h
      cases h
      exact Tree.lookup_concat_iff.2 ⟨entries, hfront, hchild⟩

/-- A way down leads to the entry that lies there. -/
theorem find_entry_descend (hroot : w.find root = .ok (place, t)) (hne : names ≠ [])
    (hnames : ∀ other ∈ names, IsEntryName other) (hu : t.lookup names = some u) :
    w.findEntry (root.descend names) = .ok (place ++ names, u) := by
  obtain ⟨front, name, rfl⟩ := (List.eq_nil_or_concat' names).resolve_left hne
  obtain ⟨entries, hfront, hchild⟩ := Tree.lookup_concat_iff.1 hu
  rw [List.forall_mem_append] at hnames
  rw [find_entry_descend_concat hroot hfront hnames.1 (hnames.2 name (by simp)), hchild]

/-- A way down to anything but a link leads there. -/
theorem find_descend (hroot : w.find root = .ok (place, t))
    (hnames : ∀ other ∈ names, IsEntryName other) (hu : t.lookup names = some u)
    (hlink : u.isLink = false) : w.find (root.descend names) = .ok (place ++ names, u) := by
  rcases List.eq_nil_or_concat' names with rfl | ⟨front, name, rfl⟩
  · cases hu
    simpa using hroot
  · obtain ⟨entries, hfront, hchild⟩ := Tree.lookup_concat_iff.1 hu
    rw [List.forall_mem_append] at hnames
    have hname := hnames.2 name (by simp)
    obtain ⟨left, hleft⟩ := walk_links_descend hroot hfront hnames.1 name
    have hstart : w.startOf (root.descend (front ++ [name])) = w.startOf root := rfl
    rw [find, hstart, FilePath.descend, hleft, walkLinks,
      walk_entry (lookup_place_append hroot hfront) hname, hchild]
    cases u with
    | link target => cases hlink
    | file content => simp
    | directory below => simp

end World

end SceneLint
