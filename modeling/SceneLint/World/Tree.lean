/-!
# File trees

A `Tree` is a file with its octets, a link with its target, or a directory with named entries.
`lookup` finds what lies at a list of names without following links; `insert` puts a tree there,
making directories on the way, and `erase` takes it out.
-/

namespace SceneLint

/-- A `Tree` is a file, a link or a directory. -/
inductive Tree where
  | file (content : List UInt8)
  | link (target : String)
  | directory (entries : List (String × Tree))

namespace Tree

/-- `empty` is a directory without entries. -/
def empty : Tree := .directory []

/-- `isLink t` says that `t` is a link. -/
def isLink : Tree → Bool
  | .link _ => true
  | _ => false

/-- `isDirectory t` says that `t` is a directory. -/
def isDirectory : Tree → Bool
  | .directory _ => true
  | _ => false

/-- `isFile t` says that `t` is a file. -/
def isFile : Tree → Bool
  | .file _ => true
  | _ => false

/-- `child? name entries` is the entry of a name. -/
def child? (name : String) : List (String × Tree) → Option Tree
  | [] => none
  | (n, t) :: entries => if n = name then some t else child? name entries

/-- `setEntry name t entries` makes `t` the entry of a name; a new name goes last. -/
def setEntry (name : String) (t : Tree) : List (String × Tree) → List (String × Tree)
  | [] => [(name, t)]
  | (n, old) :: entries =>
      if n = name then (n, t) :: entries else (n, old) :: setEntry name t entries

/-- `lookup names t` is what lies at a list of names. -/
def lookup : List String → Tree → Option Tree
  | [], t => some t
  | name :: names, .directory entries =>
      match child? name entries with
      | some below => lookup names below
      | none => none
  | _ :: _, _ => none

/-- `insert names t new` puts `new` at a list of names. What stands in the way and is no directory
is replaced by one. -/
def insert : List String → Tree → Tree → Tree
  | [], _, new => new
  | name :: names, .directory entries, new =>
      let below := (child? name entries).getD empty
      .directory (setEntry name (insert names below new) entries)
  | name :: names, _, new => .directory [(name, insert names empty new)]

/-- `erase names t` takes out what lies at a list of names. -/
def erase : List String → Tree → Tree
  | [], _ => empty
  | [name], .directory entries => .directory (entries.filter (·.1 != name))
  | name :: names, .directory entries =>
      match child? name entries with
      | some below => .directory (setEntry name (erase names below) entries)
      | none => .directory entries
  | _, t => t

/-- A set entry is found again. -/
theorem child?_set_entry_self (name : String) (t : Tree) (entries : List (String × Tree)) :
    child? name (setEntry name t entries) = some t := by
  induction entries with
  | nil => simp [setEntry, child?]
  | cons entry entries ih =>
      obtain ⟨n, old⟩ := entry
      by_cases h : n = name <;> simp [setEntry, child?, h, ih]

end Tree

end SceneLint
