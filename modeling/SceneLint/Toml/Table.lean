import SceneLint.Toml.Scalar

/-!
# Tables of a TOML document

A document is built as nested mappings. `Marks` keeps what later statements may no longer touch:
tables that have been opened by name, and values written inline, which are closed together with
everything below them. Tables that a dotted key opened are closed once the next table starts.
-/

namespace SceneLint.Toml

/-- A `KeyPath` names a table by the keys that lead to it. -/
abbrev KeyPath := List String

/-- `Marks` are the tables that may not be opened, or not changed, any more. -/
structure Marks where
  opened : List KeyPath
  frozen : List KeyPath
  pending : List KeyPath

namespace Marks

/-- `empty` marks nothing. -/
def empty : Marks := ⟨[], [], []⟩

/-- `isOpened m key` says that the table was opened by name. -/
def isOpened (m : Marks) (key : KeyPath) : Bool :=
  m.opened.contains key

/-- `isFrozen m key` says that the table lies in a value written inline. -/
def isFrozen (m : Marks) (key : KeyPath) : Bool :=
  m.frozen.any (·.isPrefixOf key)

/-- `openTable key m` marks a table as opened by name. -/
def openTable (key : KeyPath) (m : Marks) : Marks :=
  { m with opened := key :: m.opened }

/-- `freeze key m` marks a table and all below it as written inline. -/
def freeze (key : KeyPath) (m : Marks) : Marks :=
  { m with frozen := key :: m.frozen }

/-- `clear key m` forgets every mark on a table and below it. -/
def clear (key : KeyPath) (m : Marks) : Marks :=
  { m with
    opened := m.opened.filter fun path => !key.isPrefixOf path
    frozen := m.frozen.filter fun path => !key.isPrefixOf path }

/-- `settle m` marks the tables that dotted keys opened. -/
def settle (m : Marks) : Marks :=
  { m with opened := m.pending ++ m.opened, pending := [] }

end Marks

/-- `lookup? name entries` is the value of a key. -/
def lookup? (name : String) (entries : List (Data × Data)) : Option Data :=
  (entries.find? fun entry => Data.sameKey entry.1 (.text name)).map (·.2)

/-- `updateLast f items` changes the last item of a list. -/
def updateLast (f : Data → Except Fault Data) : List Data → Except Fault (List Data)
  | [] => .error .table
  | [item] => (f item).map ([·])
  | item :: items => (updateLast f items).map (item :: ·)

/-- `updateAt lists path f entries` changes the table at `path`, making the tables on the way;
`lists` says that a list of tables stands for its last one. -/
def updateAt (lists : Bool) (f : List (Data × Data) → Except Fault (List (Data × Data))) :
    KeyPath → List (Data × Data) → Except Fault (List (Data × Data))
  | [], entries => f entries
  | name :: path, entries =>
      let inside (value : Data) : Except Fault Data :=
        match value with
        | .map below => (updateAt lists f path below).map .map
        | _ => .error .table
      let updated : Except Fault Data :=
        match (lookup? name entries).getD (.map []) with
        | .list items =>
            if lists then (updateLast inside items).map .list else .error .table
        | value => inside value
      updated.map fun value => Data.put (.text name) value entries

/-- `addNew name value entries` adds a key that must not be there yet. -/
def addNew (name : String) (value : Data) (entries : List (Data × Data)) :
    Except Fault (List (Data × Data)) :=
  if (lookup? name entries).isSome then .error .table
  else .ok (entries ++ [(.text name, value)])

/-- `appendTable name entries` adds an empty table to the list of tables at a key. -/
def appendTable (name : String) (entries : List (Data × Data)) :
    Except Fault (List (Data × Data)) :=
  match lookup? name entries with
  | none => .ok (entries ++ [(.text name, .list [.map []])])
  | some (.list items) => .ok (Data.put (.text name) (.list (items ++ [.map []])) entries)
  | some _ => .error .table

/-- `isInline v` says that `v` is a list or table, whose contents are closed once written. -/
def isInline : Data → Bool
  | .list _ => true
  | .map _ => true
  | _ => false

end SceneLint.Toml
