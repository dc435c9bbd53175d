import SceneLint.Proofs.World.Answers
import SceneLint.Proofs.World.Descent
import SceneLint.World.Edit

/-!
# Worlds that differ in the content of one file

`World.DifferAt place w w'` says that two worlds hold the same entries under the same names, and
that their files have the same content, all but the one at `place`. Such worlds cannot be told apart
by following paths: `walk_alike` says so of names up to the first link, and `walk_links_alike` of a
whole path. A file is read alike unless its path leads to `place` (`read_text_eq`).
-/

namespace SceneLint

/-- A `Shape` is what lies at a place, without the content of a file. -/
inductive Shape where
  | file
  | link (target : String)
  | directory

namespace Tree

/-- `shape t` is the shape of a tree. -/
def shape : Tree → Shape
  | .file _ => .file
  | .link target => .link target
  | .directory _ => .directory

/-- `DifferAt place t t'` says that two trees differ in nothing but the content of the file at
`place`. -/
structure DifferAt (place : List String) (t t' : Tree) : Prop where
  shape_eq : ∀ names, (t'.lookup names).map shape = (t.lookup names).map shape
  content_iff : ∀ names content, names ≠ place →
    (t'.lookup names = some (.file content) ↔ t.lookup names = some (.file content))

variable {t t' : Tree} {place front : List String} {entries : List (String × Tree)}

/-- Directories are told by their shape. -/
theorem is_directory_of_shape_eq (h : t'.shape = t.shape) : t'.isDirectory = t.isDirectory := by
  cases t <;> cases t' <;> first | rfl | cases h

/-- Links are told by their shape. -/
theorem is_link_of_shape_eq (h : t'.shape = t.shape) : t'.isLink = t.isLink := by
  cases t <;> cases t' <;> first | rfl | cases h

/-- A tree of the shape of a directory is one. -/
theorem eq_directory_of_shape (h : t.shape = .directory) : ∃ entries, t = .directory entries := by
  cases t with
  | directory entries => exact ⟨entries, rfl⟩
  | file content => cases h
  | link target => cases h

/-- A tree of the shape of a link is that link. -/
theorem eq_link_of_shape {target : String} (h : t.shape = .link target) : t = .link target := by
  cases t with
  | link other =>
      cases h
      rfl
  | file content => cases h
  | directory entries => cases h

/-- A tree of the shape of a file is one. -/
theorem eq_file_of_shape (h : t.shape = .file) : ∃ content, t = .file content := by
  cases t with
  | file content => exact ⟨content, rfl⟩
  | link target => cases h
  | directory entries => cases h

/-- Either of two trees differs from the other. -/
theorem DifferAt.symm (h : DifferAt place t t') : DifferAt place t' t :=
  ⟨fun names => (h.shape_eq names).symm,
    fun names content hne => (h.content_iff names content hne).symm⟩

/-- Where one tree holds something, the other holds something of its shape. -/
theorem DifferAt.lookup_some (h : DifferAt place t t') {u : Tree}
    (hu : t.lookup front = some u) : ∃ u', t'.lookup front = some u' ∧ u'.shape = u.shape := by
  have hshape := h.shape_eq front
  rw [hu, Option.map_some, Option.map_eq_some_iff] at hshape
  exact hshape

/-- Where one tree holds nothing, the other holds nothing. -/
theorem DifferAt.lookup_none (h : DifferAt place t t') (hnone : t.lookup front = none) :
    t'.lookup front = none := by
  have hshape := h.shape_eq front
  rwa [hnone, Option.map_none, Option.map_eq_none_iff] at hshape

/-- A directory of one tree is one of the other, with entries of the same names and shapes. -/
theorem DifferAt.directory (h : DifferAt place t t')
    (hfront : t.lookup front = some (.directory entries)) :
    ∃ entries', t'.lookup front = some (.directory entries') ∧
      ∀ name, (child? name entries').map shape = (child? name entries).map shape := by
  obtain ⟨u', hu', hshape⟩ := h.lookup_some hfront
  obtain ⟨entries', rfl⟩ := eq_directory_of_shape hshape
  refine ⟨entries', hu', fun name => ?_⟩
  have hchild := h.shape_eq (front ++ [name])
  rwa [lookup_append, lookup_append, hu', hfront, Option.bind_some, Option.bind_some,
    lookup_singleton, lookup_singleton] at hchild

/-- Setting one entry leaves the others. -/
theorem child?_set_entry_of_ne {name other : String} (hne : other ≠ name) (new : Tree)
    (entries : List (String × Tree)) :
    child? other (setEntry name new entries) = child? other entries := by
  induction entries with
  | nil => simp [setEntry, child?, hne.symm]
  | cons entry entries ih =>
      obtain ⟨n, old⟩ := entry
      by_cases hn : n = name
      · subst hn
        simp [setEntry, child?, hne.symm]
      · simp [setEntry, child?, hn, ih]

/-- A tree differs from itself at a file that gets other content. -/
theorem differ_at_insert {old : List UInt8} (hold : t.lookup place = some (.file old))
    (new : List UInt8) : t.DifferAt place (t.insert place (.file new)) := by
  induction place generalizing t with
  | nil =>
      cases hold
      refine ⟨fun names => ?_, fun names content hne => ?_⟩
      · cases names <;> rfl
      · obtain ⟨name, rest, rfl⟩ := List.exists_cons_of_ne_nil hne
        rfl
  | cons name place ih =>
      cases t with
      | file content => cases hold
      | link target => cases hold
      | directory entries =>
          obtain ⟨below, hchild, hbelow⟩ : ∃ below, child? name entries = some below ∧
              below.lookup place = some (.file old) := by
            rw [← List.singleton_append, lookup_append, lookup_singleton] at hold
            exact Option.bind_eq_some_iff.1 hold
          have hdiffer := ih hbelow
          -- Below the entry that is set the trees differ as they do there, elsewhere they agree.
          have hlookup : ∀ first rest, lookup (first :: rest)
              (insert (name :: place) (.directory entries) (.file new)) =
                if first = name then lookup rest (insert place below (.file new))
                else lookup (first :: rest) (.directory entries) := by
            intro first rest
            by_cases hfirst : first = name
            · subst hfirst
              simp [insert, lookup, hchild, child?_set_entry_self]
            · simp [insert, lookup, hfirst, child?_set_entry_of_ne hfirst]
          have hhere : ∀ rest, lookup (name :: rest) (.directory entries) = lookup rest below := by
            intro rest
            simp [lookup, hchild]
          refine ⟨fun names => ?_, fun names content hne => ?_⟩
          · cases names with
            | nil => rfl
            | cons first rest =>
                rw [hlookup]
                split
                · next heq => rw [heq, hhere, hdiffer.shape_eq]
                · rfl
          · cases names with
            | nil => simp [lookup, insert]
            | cons first rest =>
                rw [hlookup]
                split
                · next heq =>
                    rw [heq, hhere, hdiffer.content_iff]
                    rintro rfl
                    exact hne (by rw [heq])
                · rfl

end Tree

namespace World

/-- `DifferAt place w w'` says that two worlds differ in nothing that a check depends on but the
content of the file at `place`. -/
structure DifferAt (place : List String) (w w' : World) : Prop where
  tree : w.tree.DifferAt place w'.tree
  working : w'.working = w.working
  denied : w'.denied = w.denied
  host : w'.host = w.host

/-- `Step.Alike step step'` says that two steps end alike, up to the content of a file. -/
inductive Step.Alike : Step → Step → Prop where
  | found (place : List String) {t t' : Tree} :
      t'.shape = t.shape → Step.Alike (.found place t) (.found place t')
  | refused (fault : SystemFault) : Step.Alike (.refused fault) (.refused fault)
  | link (place : List String) (target : String) (names : List String) :
      Step.Alike (.link place target names) (.link place target names)

/-- `Alike x x'` says that two paths lead alike, up to the content of a file. -/
inductive Alike : Except SystemFault (List String × Tree) →
    Except SystemFault (List String × Tree) → Prop where
  | found (place : List String) {t t' : Tree} :
      t'.shape = t.shape → Alike (.ok (place, t)) (.ok (place, t'))
  | refused (fault : SystemFault) : Alike (.error fault) (.error fault)

variable {tree tree' : Tree} {edited : List String}

/-- A world differs from itself at a file that gets other content. -/
theorem differ_at_put {w : World} {old : List UInt8}
    (hold : w.tree.lookup edited = some (.file old)) (new : List UInt8) :
    w.DifferAt edited (w.put edited (.file new)) :=
  ⟨Tree.differ_at_insert hold new, rfl, rfl, rfl⟩

/-! ## Following paths -/

/-- A way ends alike where it is. -/
theorem walk_nil_alike (h : tree.DifferAt edited tree') (follow : Bool) (place : List String) :
    (walk tree follow place []).Alike (walk tree' follow place []) := by
  simp only [walk]
  cases hplace : tree.lookup place with
  | none =>
      rw [h.lookup_none hplace]
      exact .refused _
  | some t =>
      obtain ⟨t', ht', hshape⟩ := h.lookup_some hplace
      rw [ht']
      exact .found place hshape

/-- No way leads on from what is no directory. -/
theorem walk_alike_of_not_directory (h : tree.DifferAt edited tree') {place : List String}
    (hplace : ∀ entries, tree.lookup place ≠ some (.directory entries)) (follow : Bool)
    (name : String) (names : List String) :
    (walk tree follow place (name :: names)).Alike (walk tree' follow place (name :: names)) := by
  simp only [walk]
  cases hhere : tree.lookup place with
  | none =>
      rw [h.lookup_none hhere]
      exact .refused _
  | some t =>
      obtain ⟨t', ht', hshape⟩ := h.lookup_some hhere
      rw [ht']
      cases t with
      | file content =>
          obtain ⟨content', rfl⟩ := Tree.eq_file_of_shape hshape
          exact .refused _
      | link target =>
          obtain rfl := Tree.eq_link_of_shape hshape
          exact .refused _
      | directory entries => exact absurd hhere (hplace entries)

/-- An entry is passed alike, because only its shape decides how the way goes on. -/
theorem walk_alike_of_child {place names : List String} {name : String} {follow : Bool}
    {entries entries' : List (String × Tree)}
    (hplace : tree.lookup place = some (.directory entries))
    (hplace' : tree'.lookup place = some (.directory entries'))
    (hup : name ≠ "..") (hstay : name ≠ ".")
    (hchild : (Tree.child? name entries').map Tree.shape =
      (Tree.child? name entries).map Tree.shape)
    (hrest : ∀ place, (walk tree follow place names).Alike (walk tree' follow place names)) :
    (walk tree follow place (name :: names)).Alike (walk tree' follow place (name :: names)) := by
  rw [walk, walk, hplace, hplace']
  simp only [if_neg hup, if_neg hstay]
  split
  · exact .refused _
  cases hbelow : Tree.child? name entries with
  | none =>
      rw [hbelow, Option.map_none, Option.map_eq_none_iff] at hchild
      rw [hchild]
      exact .refused _
  | some below =>
      rw [hbelow, Option.map_some, Option.map_eq_some_iff] at hchild
      obtain ⟨below', hbelow', hshape⟩ := hchild
      rw [hbelow']
      cases below with
      | file content =>
          obtain ⟨content', rfl⟩ := Tree.eq_file_of_shape hshape
          exact hrest _
      | directory inner =>
          obtain ⟨inner', rfl⟩ := Tree.eq_directory_of_shape hshape
          exact hrest _
      | link target =>
          obtain rfl := Tree.eq_link_of_shape hshape
          dsimp only
          split
          · exact .found _ rfl
          · exact .link _ _ _

/-- Names are followed alike in trees that differ in the content of one file. -/
theorem walk_alike (h : tree.DifferAt edited tree') (follow : Bool) (place names : List String) :
    (walk tree follow place names).Alike (walk tree' follow place names) := by
  induction names generalizing place with
  | nil => exact walk_nil_alike h follow place
  | cons name names ih =>
      by_cases hplace : ∃ entries, tree.lookup place = some (.directory entries)
      · obtain ⟨entries, hentries⟩ := hplace
        obtain ⟨entries', hentries', hchildren⟩ := h.directory hentries
        by_cases hup : name = ".."
        · simpa only [walk, hentries, hentries', hup, ↓reduceIte] using ih place.dropLast
        by_cases hstay : name = "."
        · simpa [walk, hentries, hentries', hstay] using ih place
        exact walk_alike_of_child hentries hentries' hup hstay (hchildren name) ih
      · exact walk_alike_of_not_directory h (fun entries heq => hplace ⟨entries, heq⟩) follow name
          names

/-- Paths lead alike in trees that differ in the content of one file. -/
theorem walk_links_alike (h : tree.DifferAt edited tree') (follow : Bool) (links : Nat)
    (place names : List String) :
    Alike (walkLinks tree follow links place names) (walkLinks tree' follow links place names) := by
  induction links generalizing place names with
  | zero =>
      have hstep := walk_alike h follow place names
      rw [walkLinks, walkLinks]
      generalize walk tree follow place names = step, walk tree' follow place names = step' at hstep
      cases hstep with
      | found here hshape => exact .found here hshape
      | refused fault => exact .refused fault
      | link here target rest => exact .refused _
  | succ links ih =>
      have hstep := walk_alike h follow place names
      rw [walkLinks, walkLinks]
      generalize walk tree follow place names = step, walk tree' follow place names = step' at hstep
      cases hstep with
      | found here hshape => exact .found here hshape
      | refused fault => exact .refused fault
      | link here target rest =>
          dsimp only
          split
          · exact .refused _
          · exact ih _ _

namespace DifferAt

variable {place : List String} {w w' : World}

/-- Either of two worlds differs from the other. -/
theorem symm (h : DifferAt place w w') : DifferAt place w' w :=
  ⟨h.tree.symm, h.working.symm, h.denied.symm, h.host.symm⟩

/-- A path leads alike in worlds that differ in the content of one file. -/
theorem find_alike (h : DifferAt place w w') (p : FilePath) : Alike (w.find p) (w'.find p) := by
  have hstart : w'.startOf p = w.startOf p := by simp only [startOf, h.working]
  rw [find, find, hstart]
  exact walk_links_alike h.tree _ _ _ _

/-- A path leads alike, too, where a link at its end is not followed. -/
theorem find_entry_alike (h : DifferAt place w w') (p : FilePath) :
    Alike (w.findEntry p) (w'.findEntry p) := by
  have hstart : w'.startOf p = w.startOf p := by simp only [startOf, h.working]
  rw [findEntry, findEntry, hstart]
  exact walk_links_alike h.tree _ _ _ _

/-- What the system tells of paths that lead alike does not depend on the content of a file. -/
theorem holds_asked_eq (h : DifferAt place w w') {is : Tree → Bool}
    (his : ∀ t t' : Tree, t'.shape = t.shape → is t' = is t) (p : FilePath)
    {found found' : Except SystemFault (List String × Tree)} (hfound : Alike found found') :
    holds is p (w'.asked p found') = holds is p (w.asked p found) := by
  have hrefusal : w'.refusal? p = w.refusal? p := by simp only [refusal?, h.denied]
  rw [holds_asked, holds_asked, hrefusal]
  cases hfound with
  | found here hshape => simp only [answer, his _ _ hshape]
  | refused fault => rfl

/-- Something lies at a path in both worlds or in neither. -/
theorem has_eq (h : DifferAt place w w') (p : FilePath) : w'.has p = w.has p :=
  h.holds_asked_eq (fun _ _ _ => rfl) p (h.find_alike p)

/-- A directory lies at a path in both worlds or in neither. -/
theorem has_directory_eq (h : DifferAt place w w') (p : FilePath) :
    w'.hasDirectory p = w.hasDirectory p :=
  h.holds_asked_eq (fun _ _ => Tree.is_directory_of_shape_eq) p (h.find_alike p)

/-- A link lies at a path in both worlds or in neither. -/
theorem has_link_eq (h : DifferAt place w w') (p : FilePath) : w'.hasLink p = w.hasLink p :=
  h.holds_asked_eq (fun _ _ => Tree.is_link_of_shape_eq) p (h.find_entry_alike p)

/-! ## Reading files -/

/-- A file that lies elsewhere has the same content in both worlds. -/
theorem octets_eq (h : DifferAt place w w') {p : FilePath}
    (helse : ∀ t, w.find p ≠ .ok (place, t)) : w'.octets p = w.octets p := by
  have hfind := h.find_alike p
  rw [World.octets_eq, World.octets_eq, h.denied]
  suffices hcontent : contentOf p (w'.find p) = contentOf p (w.find p) by rw [hcontent]
  cases hfound : w.find p with
  | error fault =>
      rw [hfound] at hfind
      generalize w'.find p = found' at hfind
      cases hfind
      rfl
  | ok found =>
      obtain ⟨here, t⟩ := found
      have hne : here ≠ place := by
        rintro rfl
        exact helse t hfound
      cases hfound' : w'.find p with
      | error fault =>
          rw [hfound, hfound'] at hfind
          cases hfind
      | ok found' =>
          obtain ⟨here', t'⟩ := found'
          rw [hfound, hfound'] at hfind
          cases hfind with
          | found _ hshape =>
              cases t with
              | directory entries =>
                  obtain ⟨entries', rfl⟩ := Tree.eq_directory_of_shape hshape
                  rfl
              | link target =>
                  obtain rfl := Tree.eq_link_of_shape hshape
                  rfl
              | file content =>
                  have hplace := lookup_of_walk_links hfound
                  have hplace' := lookup_of_walk_links hfound'
                  rw [(h.tree.content_iff here content hne).2 hplace] at hplace'
                  cases hplace'
                  rfl

/-- A file that lies elsewhere has the same text in both worlds. -/
theorem read_text_eq (h : DifferAt place w w') {p : FilePath}
    (helse : ∀ t, w.find p ≠ .ok (place, t)) : w'.readText p = w.readText p := by
  simp only [readText, content, h.octets_eq helse]

end DifferAt

end World

end SceneLint
