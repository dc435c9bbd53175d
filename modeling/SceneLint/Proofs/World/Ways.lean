import SceneLint.Proofs.World.Contents
import SceneLint.World.Resolve

/-!
# Worlds with the same ways

Two trees have the same ways if they have the same directories and the same links; files may come,
go and change. A path then leads through the same links to the same directory, link or loop in both
(`walk_links_passage`), so it has the same real path (`same_real`). What a user may write in place
of a path depends on the environment, too: a dollar sign on any variable, a tilde on the home
directory alone (`expand_eq`).
-/

namespace SceneLint

/-- A `Way` is what a path can lead on through. -/
inductive Way where
  | directory
  | link (target : String)

namespace Tree

/-- `way? t` is the way that a tree is, if it is no file. -/
def way? : Tree → Option Way
  | .file _ => none
  | .link target => some (.link target)
  | .directory _ => some .directory

/-- A tree that is a directory on the way is one. -/
theorem eq_of_way_directory {t : Tree} (h : t.way? = some .directory) :
    ∃ entries, t = .directory entries := by
  cases t with
  | directory entries => exact ⟨entries, rfl⟩
  | file content => cases h
  | link target => cases h

/-- A tree that is a link on the way is that link. -/
theorem eq_of_way_link {t : Tree} {target : String} (h : t.way? = some (.link target)) :
    t = .link target := by
  cases t with
  | link other =>
      cases h
      rfl
  | file content => cases h
  | directory entries => cases h

/-- `SameWays t t'` says that two trees have the same directories and links. -/
def SameWays (t t' : Tree) : Prop :=
  ∀ names, (t'.lookup names).bind way? = (t.lookup names).bind way?

variable {t t' : Tree} {names : List String}

/-- Either of two trees has the ways of the other. -/
theorem SameWays.symm (h : t.SameWays t') : t'.SameWays t :=
  fun names => (h names).symm

/-- A directory of one tree is one of the other, with the same ways among its entries. -/
theorem SameWays.directory (h : t.SameWays t') {entries : List (String × Tree)}
    (hentries : t.lookup names = some (.directory entries)) :
    ∃ entries', t'.lookup names = some (.directory entries') ∧
      ∀ name, (child? name entries').bind way? = (child? name entries).bind way? := by
  have hway := h names
  rw [hentries, Option.bind_some, way?, Option.bind_eq_some_iff] at hway
  obtain ⟨u, hu, hdirectory⟩ := hway
  obtain ⟨entries', rfl⟩ := eq_of_way_directory hdirectory
  refine ⟨entries', hu, fun name => ?_⟩
  have hchild := h (names ++ [name])
  rwa [lookup_append, lookup_append, hu, hentries, Option.bind_some, Option.bind_some,
    lookup_singleton, lookup_singleton] at hchild

/-- What lies below an entry that is set is found there, and the rest where it was. -/
theorem lookup_set_entry (first name : String) (rest : List String) (new : Tree)
    (entries : List (String × Tree)) :
    lookup (first :: rest) (.directory (setEntry name new entries)) =
      if first = name then lookup rest new else lookup (first :: rest) (.directory entries) := by
  by_cases hfirst : first = name
  · subst hfirst
    simp [lookup, child?_set_entry_self]
  · simp [lookup, hfirst, child?_set_entry_of_ne hfirst]

/-- A file that is made or written in a directory leaves the ways as they are. -/
theorem same_ways_insert {place : List String} {name : String} {entries : List (String × Tree)}
    (hplace : t.lookup place = some (.directory entries))
    (hchild : (child? name entries).bind way? = none) (content : List UInt8) :
    t.SameWays (t.insert (place ++ [name]) (.file content)) := by
  induction place generalizing t with
  | nil =>
      cases hplace
      intro names
      cases names with
      | nil => rfl
      | cons first rest =>
          simp only [List.nil_append, insert, lookup_set_entry]
          split
          · next heq =>
              subst heq
              rw [lookup]
              cases hold : child? first entries with
              | none => cases rest <;> rfl
              | some old =>
                  rw [hold] at hchild
                  cases old with
                  | file old => cases rest <;> rfl
                  | link target => cases hchild
                  | directory inner => cases hchild
          · rfl
  | cons directory place ih =>
      cases t with
      | file old => cases hplace
      | link target => cases hplace
      | directory outer =>
          obtain ⟨below, hbelow, hinner⟩ : ∃ below, child? directory outer = some below ∧
              below.lookup place = some (.directory entries) := by
            rw [← List.singleton_append, lookup_append, lookup_singleton] at hplace
            exact Option.bind_eq_some_iff.1 hplace
          intro names
          cases names with
          | nil => rfl
          | cons first rest =>
              simp only [List.cons_append, insert, hbelow, Option.getD_some, lookup_set_entry]
              split
              · next heq =>
                  subst heq
                  rw [ih hinner rest, lookup, hbelow]
              · rfl

end Tree

namespace World

/-- A `Passage` is where a path leads, apart from files: to a directory, to a link, on through a
link, into a loop, or nowhere. -/
inductive Passage where
  | directory (place : List String)
  | link (place : List String) (target : String)
  | through (place : List String) (target : String) (names : List String)
  | loop
  | nowhere

/-- `passage x` is where a path leads. -/
def passage : Except SystemFault (List String × Tree) → Passage
  | .ok (place, .directory _) => .directory place
  | .ok (place, .link target) => .link place target
  | .ok (_, .file _) => .nowhere
  | .error .tooManyLinks => .loop
  | .error _ => .nowhere

/-- `Step.passage step` is where names lead up to the first link. -/
def Step.passage : Step → Passage
  | .found place t => World.passage (.ok (place, t))
  | .refused fault => World.passage (.error fault)
  | .link place target names => .through place target names

variable {tree tree' : Tree}

/-- A way ends where it is. -/
theorem walk_nil_passage (tree : Tree) (follow : Bool) (place : List String) :
    (walk tree follow place []).passage =
      match (tree.lookup place).bind Tree.way? with
      | some .directory => .directory place
      | some (.link target) => .link place target
      | none => .nowhere := by
  rw [walk]
  cases tree.lookup place with
  | none => rfl
  | some t => cases t <;> rfl

/-- Names lead nowhere from what is no directory. -/
theorem walk_passage_of_not_directory {place : List String}
    (h : ∀ entries, tree.lookup place ≠ some (.directory entries)) (follow : Bool) (name : String)
    (names : List String) : (walk tree follow place (name :: names)).passage = .nowhere := by
  rw [walk]
  split
  · next entries hentries => exact absurd hentries (h entries)
  · rfl
  · rfl

/-- A name that is neither a directory nor a link leads nowhere. -/
theorem walk_passage_of_no_way {place : List String} {entries : List (String × Tree)}
    (hplace : tree.lookup place = some (.directory entries)) {name : String} (hup : name ≠ "..")
    (hstay : name ≠ ".") (hchild : (Tree.child? name entries).bind Tree.way? = none)
    (follow : Bool) (names : List String) :
    (walk tree follow place (name :: names)).passage = .nowhere := by
  rw [walk, hplace]
  simp only [if_neg hup, if_neg hstay]
  split
  · rfl
  cases hbelow : Tree.child? name entries with
  | none => rfl
  | some below =>
      cases below with
      | directory inner => simp [hbelow, Tree.way?] at hchild
      | link target => simp [hbelow, Tree.way?] at hchild
      | file content =>
          have hfile : tree.lookup (place ++ [name]) = some (.file content) := by
            rw [Tree.lookup_append, hplace, Option.bind_some, Tree.lookup_singleton, hbelow]
          cases names with
          | nil =>
              show (walk tree follow (place ++ [name]) []).passage = .nowhere
              rw [walk_nil_passage, hfile]
              rfl
          | cons next names =>
              exact walk_passage_of_not_directory (by simp [hfile]) follow next names

/-- Names lead alike in trees with the same ways. -/
theorem walk_passage (h : tree.SameWays tree') (follow : Bool) (place names : List String) :
    (walk tree' follow place names).passage = (walk tree follow place names).passage := by
  induction names generalizing place with
  | nil => rw [walk_nil_passage, walk_nil_passage, h place]
  | cons name names ih =>
      by_cases hplace : ∃ entries, tree.lookup place = some (.directory entries)
      · obtain ⟨entries, hplace⟩ := hplace
        obtain ⟨entries', hplace', hchildren⟩ := h.directory hplace
        by_cases hup : name = ".."
        · simpa [walk, hplace, hplace', hup] using ih place.dropLast
        by_cases hstay : name = "."
        · simpa [walk, hplace, hplace', hstay] using ih place
        have hchild := hchildren name
        cases hway : (Tree.child? name entries).bind Tree.way? with
        | none =>
            rw [walk_passage_of_no_way hplace hup hstay hway,
              walk_passage_of_no_way hplace' hup hstay (hchild.trans hway)]
        | some way =>
            rw [hway] at hchild
            obtain ⟨below, hbelow, hbelow_way⟩ := Option.bind_eq_some_iff.1 hway
            obtain ⟨below', hbelow', hbelow_way'⟩ := Option.bind_eq_some_iff.1 hchild
            rw [walk, walk, hplace, hplace']
            simp only [if_neg hup, if_neg hstay, hbelow, hbelow']
            split
            · rfl
            cases way with
            | directory =>
                obtain ⟨inner, rfl⟩ := Tree.eq_of_way_directory hbelow_way
                obtain ⟨inner', rfl⟩ := Tree.eq_of_way_directory hbelow_way'
                exact ih _
            | link target =>
                rw [Tree.eq_of_way_link hbelow_way, Tree.eq_of_way_link hbelow_way']
      · have hplace' : ∀ entries, tree'.lookup place ≠ some (.directory entries) := by
          intro entries hentries
          obtain ⟨entries', hentries', -⟩ := h.symm.directory hentries
          exact hplace ⟨entries', hentries'⟩
        rw [walk_passage_of_not_directory hplace',
          walk_passage_of_not_directory (fun entries hentries => hplace ⟨entries, hentries⟩)]

/-- Whether a path leads on is decided by where its names lead up to the first link. -/
theorem walk_links_eq (tree : Tree) (follow : Bool) (links : Nat) (place names : List String) :
    passage (walkLinks tree follow links place names) =
      match (walk tree follow place names).passage with
      | .through place target names =>
          match links with
          | 0 => .loop
          | links + 1 =>
              if target = "" then .nowhere
              else
                passage (walkLinks tree follow links
                  (if (FilePath.ofString target).isAbsolute then [] else place)
                  (targetNames target ++ names))
      | here => here := by
  rw [walkLinks]
  cases walk tree follow place names with
  | found here t => cases t <;> rfl
  | refused fault => cases fault <;> rfl
  | link here target rest =>
      cases links with
      | zero => rfl
      | succ links =>
          simp only [Step.passage]
          split <;> rfl

/-- Paths lead alike in trees with the same ways. -/
theorem walk_links_passage (h : tree.SameWays tree') (follow : Bool) (links : Nat)
    (place names : List String) :
    passage (walkLinks tree' follow links place names) =
      passage (walkLinks tree follow links place names) := by
  induction links generalizing place names with
  | zero => rw [walk_links_eq, walk_links_eq, walk_passage h]
  | succ links ih =>
      rw [walk_links_eq, walk_links_eq, walk_passage h]
      simp only [ih]

/-! ## Real paths -/

/-- `linkAt? w p` is the target of a link that surely lies at a path. -/
def linkAt? (w : World) (p : FilePath) : Option String :=
  match w.lstat p with
  | .ok (.link target) => some target
  | _ => none

/-- `isLoop w p` says that a path surely leads into a loop. -/
def isLoop (w : World) (p : FilePath) : Bool :=
  match w.stat p with
  | .error ⟨.tooManyLinks, _⟩ => true
  | _ => false

/-- A link lies at a path when the system looks there and the path leads to it. -/
theorem link_at_eq (w : World) (p : FilePath) : w.linkAt? p =
    match w.refusal? p, passage (w.findEntry p) with
    | none, .link _ target => some target
    | _, _ => none := by
  rw [linkAt?, lstat, asked_eq]
  cases w.refusal? p with
  | some e => rfl
  | none =>
      rcases w.findEntry p with fault | ⟨place, t⟩
      · cases fault <;> rfl
      · cases t <;> rfl

/-- A path leads into a loop when the system looks there and does not get to an end. -/
theorem is_loop_eq (w : World) (p : FilePath) : w.isLoop p =
    match w.refusal? p, passage (w.find p) with
    | none, .loop => true
    | _, _ => false := by
  rw [isLoop, stat, asked_eq]
  cases hlook : w.refusal? p with
  | some e =>
      have habsence := not_absence_of_refusal hlook
      obtain ⟨fault, path⟩ := e
      cases fault <;> first | rfl | cases habsence
  | none =>
      rcases w.find p with fault | ⟨place, t⟩
      · cases fault <;> rfl
      · cases t <;> rfl

/-- A name is followed on where no link lies, and through the link that does. -/
theorem follow_cons (w : World) (fuel : Nat) (t : Trail) (name : String) (names : List String)
    (visited : Visited) :
    follow w (fuel + 1) t (name :: names) visited =
      if name = ".." then follow w fuel t.up names visited
      else
        let further := t.down name
        match w.linkAt? further.path with
        | some target =>
            match visited.lookup further with
            | some (some known) => follow w fuel known names visited
            | some none => ⟨{ further with names := further.names ++ names }, false, visited⟩
            | none =>
                let way := FilePath.ofString target
                let from_ := if way.isAbsolute then ⟨true, []⟩ else t
                let inner := follow w fuel from_ way.parts ((further, none) :: visited)
                if inner.complete then
                  follow w fuel inner.trail names ((further, some inner.trail) :: inner.visited)
                else
                  ⟨{ inner.trail with names := inner.trail.names ++ names }, false, inner.visited⟩
        | none => follow w fuel further names visited := by
  simp only [follow, linkAt?]
  rcases w.lstat (t.down name).path with e | u
  · rfl
  · cases u <;> rfl

/-- A path is resolved unless its real path leads into a loop. -/
theorem resolve_eq (w : World) (p : FilePath) :
    w.resolve p =
      if hasNul p then .error .nulByte
      else
        match w.isLoop (w.realPath p) with
        | true => .error (.linkLoop (w.realPath p).text)
        | false => .ok (w.realPath p) := by
  simp only [resolve, isLoop]
  rcases w.stat (w.realPath p) with ⟨fault, path⟩ | t
  · cases fault <;> rfl
  · rfl

/-- `SameWays w w'` says that paths lead alike in two worlds, apart from files. -/
structure SameWays (w w' : World) : Prop where
  tree : w.tree.SameWays w'.tree
  working : w'.working = w.working
  denied : w'.denied = w.denied

namespace SameWays

variable {w w' : World}

/-- A path leads alike. -/
theorem find_passage (h : w.SameWays w') (p : FilePath) :
    passage (w'.find p) = passage (w.find p) := by
  have hstart : w'.startOf p = w.startOf p := by simp only [startOf, h.working]
  rw [find, find, hstart]
  exact walk_links_passage h.tree _ _ _ _

/-- A path leads alike, too, where a link at its end is not followed. -/
theorem find_entry_passage (h : w.SameWays w') (p : FilePath) :
    passage (w'.findEntry p) = passage (w.findEntry p) := by
  have hstart : w'.startOf p = w.startOf p := by simp only [startOf, h.working]
  rw [findEntry, findEntry, hstart]
  exact walk_links_passage h.tree _ _ _ _

/-- The system looks at a path in both worlds or refuses alike. -/
theorem refusal_eq (h : w.SameWays w') (p : FilePath) : w'.refusal? p = w.refusal? p := by
  simp only [refusal?, h.denied]

/-- Links are followed alike. -/
theorem follow_eq (h : w.SameWays w') (fuel : Nat) (t : Trail) (names : List String)
    (visited : Visited) : follow w' fuel t names visited = follow w fuel t names visited := by
  induction fuel generalizing t names visited with
  | zero => rfl
  | succ fuel ih =>
      cases names with
      | nil => rfl
      | cons name names =>
          simp only [follow_cons, link_at_eq, h.find_entry_passage, h.refusal_eq, ih]

end SameWays

/-- `SameReal w w'` says that every path has the same real path in two worlds. -/
structure SameReal (w w' : World) : Prop where
  resolve : ∀ p, w'.resolve p = w.resolve p
  working : w'.working = w.working

/-- Paths that lead alike have the same real paths. -/
theorem SameWays.same_real {w w' : World} (h : w.SameWays w') : w.SameReal w' := by
  refine ⟨fun p => ?_, h.working⟩
  have hreal : w'.realPath p = w.realPath p := by simp only [realPath, h.follow_eq, h.working]
  simp only [resolve_eq, is_loop_eq, hreal, h.find_passage, h.refusal_eq]

/-! ## Expanding -/

variable {w w' : World}

/-- Variables are replaced alike in one environment. -/
theorem expand_variables_congr (h : w'.environment = w.environment) (s : String) :
    w'.expandVariables s = w.expandVariables s := by
  have hfrom : ∀ fuel cs, expandFrom w' fuel cs = expandFrom w fuel cs := by
    intro fuel
    induction fuel with
    | zero => exact fun _ => rfl
    | succ fuel ih =>
        intro cs
        cases cs with
        | nil => rfl
        | cons c cs => simp only [expandFrom, variableValue?, h, ih]
  rw [expandVariables, expandVariables, hfrom]

/-- A path is expanded alike from one home directory, if paths have the same real paths. -/
theorem SameReal.expand_eq (hreal : w.SameReal w') (hhome : w'.home? = w.home?) (p : FilePath) :
    w'.expand p = w.expand p := by
  simp only [expand, expandHome, hhome, hreal.resolve]

/-- A text without a dollar sign names no variable. -/
theorem expand_variables_of_not_mem {s : String} (h : '$' ∉ s.toList) (w : World) :
    w.expandVariables s = s := by
  have hfrom : ∀ fuel cs, '$' ∉ cs → expandFrom w fuel cs = cs := by
    intro fuel
    induction fuel with
    | zero => exact fun _ _ => rfl
    | succ fuel ih =>
        intro cs hcs
        cases cs with
        | nil => rfl
        | cons c cs =>
            rw [List.mem_cons, not_or] at hcs
            rw [expandFrom, if_neg (Ne.symm hcs.1), ih cs hcs.2]
  rw [expandVariables, hfrom _ _ h, String.ofList_toList]

end World

end SceneLint
