import SceneLint.World.Resolve

/-!
# Changing the world

Files are written, removed and made by `makeDirectory`, `openFile`, `write`, `link` and `remove`;
`setVariable` and `enter` change the environment and the working directory. Links on the way to a
file are followed.
-/

namespace SceneLint.World

/-- `put w place t` puts a tree at a place. -/
def put (w : World) (place : List String) (t : Tree) : World :=
  { w with tree := w.tree.insert place t }

/-- `placeOf w p` is where a path really leads, or the names of a path that leads nowhere. -/
def placeOf (w : World) (p : FilePath) : List String :=
  match w.find p with
  | .ok (place, _) => place
  | .error _ => w.startOf p ++ p.parts

/-- `putAt w p t` puts a tree under the last name of a path into the directory that the names
before lead to. -/
def putAt (w : World) (p : FilePath) (t : Tree) : World :=
  w.put (w.placeOf p.parent ++ [p.name]) t

/-- `makeFrom w full made names` makes directories of the names behind `made`, one below the
other; `full` is the path that is asked for. -/
def makeFrom (w : World) (full made : FilePath) : List String → Except SystemError World
  | [] => .ok w
  | name :: names =>
      let here := made.child name
      match w.find here with
      | .ok (_, .directory _) => makeFrom w full here names
      | .ok _ =>
          .error ⟨if names.isEmpty then .entryExists else .notDirectory, full.text⟩
      | .error .noEntry =>
          match w.findEntry here with
          | .ok _ => .error ⟨.entryExists, here.text⟩
          | .error _ => makeFrom (w.putAt here .empty) full here names
      | .error fault => .error ⟨fault, full.text⟩

/-- `makeDirectory w p` makes a directory, and those above it, unless it exists. -/
def makeDirectory (w : World) (p : FilePath) : Except SystemError World :=
  makeFrom w p ⟨p.anchor, []⟩ p.parts

/-- `openFile w p` makes an empty file unless there is one. A link that leads nowhere is followed,
and the file is made where it leads. -/
def openFile (w : World) (p : FilePath) : Except SystemError World :=
  match reached p (w.find p) with
  | .ok t => if t.isDirectory then .error ⟨.isDirectory, p.text⟩ else .ok w
  | .error ⟨.noEntry, _⟩ =>
      let real := w.realPath p
      match w.find real.parent with
      | .ok (_, .directory _) => .ok (w.putAt real (.file []))
      | _ => .error ⟨.noEntry, p.text⟩
  | .error e => .error e

/-- `write w p content` writes a file and makes the directories above it. -/
def write (w : World) (p : FilePath) (content : List UInt8) : Except SystemError World := do
  let w ← w.makeDirectory p.parent
  let w ← w.openFile p
  return w.put (w.placeOf p) (.file content)

/-- `link w p target` makes a link and the directories above it. -/
def link (w : World) (p : FilePath) (target : String) : Except SystemError World := do
  let w ← w.makeDirectory p.parent
  return w.putAt p (.link target)

/-- `remove w p` takes away what lies at a path; of a link only the link. -/
def remove (w : World) (p : FilePath) : Except SystemError World :=
  match w.findEntry p with
  | .ok (place, _) => .ok { w with tree := w.tree.erase place }
  | .error fault => .error ⟨fault, p.text⟩

/-- `setVariable w name value` gives a variable of the environment a value, or takes it away. -/
def setVariable (w : World) (name : String) (value : Option String) : World :=
  let others := w.environment.filter (·.1 != name)
  match value with
  | none => { w with environment := others }
  | some value =>
      { w with environment := if w.environment.any (·.1 == name) then
          w.environment.map fun entry => if entry.1 = name then (name, value) else entry
        else w.environment ++ [(name, value)] }

/-- `enter w p` makes the directory at a path the working directory. -/
def enter (w : World) (p : FilePath) : Except SystemError World :=
  match w.find p with
  | .ok (place, t) =>
      if t.isDirectory then .ok { w with working := place } else .error ⟨.notDirectory, p.text⟩
  | .error fault => .error ⟨fault, p.text⟩

end SceneLint.World
