import SceneLint.Text.Quoted
import SceneLint.Text.Search

/-!
# File paths

A `FilePath` is where a path starts and the names it passes through. Reading a path drops empty
and `.` names and keeps `..`; exactly two leading slashes are a start of their own. The last name
splits into stem and suffix at its last point, unless that point begins or ends the name.
`relativeTo` removes a leading path; it succeeds exactly when the starts agree and the names of one
begin with those of the other.
-/

namespace SceneLint

/-- An `Anchor` is where a path starts. -/
inductive Anchor where
  | relative
  | root
  | doubleRoot
deriving DecidableEq

/-- `Anchor.text` is how a path with this start begins. -/
def Anchor.text : Anchor → String
  | .relative => ""
  | .root => "/"
  | .doubleRoot => "//"

/-- A `FilePath` is a start and the names it passes through. -/
structure FilePath where
  anchor : Anchor
  parts : List String
deriving DecidableEq

/-- A `NotBelow` says that one path does not lead through another. -/
structure NotBelow where
  path : String
  root : String

/-- `NotBelow.message` names both paths. -/
def NotBelow.message (e : NotBelow) : String :=
  Text.quoted e.path ++ " is not in the subpath of " ++ Text.quoted e.root ++
    " OR one path is relative and the other is absolute."

namespace FilePath

/-- `anchorOf cs` is the start of a written path. -/
def anchorOf (cs : List Char) : Anchor :=
  match (cs.takeWhile (· == '/')).length with
  | 0 => .relative
  | 2 => .doubleRoot
  | _ => .root

/-- `isStep name` says that a name counts when a path is read. -/
def isStep (name : String) : Bool :=
  name != "" && name != "."

/-- `ofString s` reads a path. -/
def ofString (s : String) : FilePath :=
  ⟨anchorOf s.toList, (Text.splitText '/' s).filter isStep⟩

/-- `bareText p` writes the start and the names of a path. -/
def bareText (p : FilePath) : String :=
  p.anchor.text ++ "/".intercalate p.parts

/-- `text p` writes a path; the empty relative path is a point. -/
def text (p : FilePath) : String :=
  if p.anchor = .relative && p.parts.isEmpty then "." else p.bareText

/-- `isAbsolute p` says that a path does not depend on the working directory. -/
def isAbsolute (p : FilePath) : Bool :=
  p.anchor != .relative

/-- `child p name` leads one name further. -/
def child (p : FilePath) (name : String) : FilePath :=
  ⟨p.anchor, p.parts ++ [name]⟩

/-- `join p q` follows `q` from `p`; an absolute `q` stands for itself. -/
def join (p q : FilePath) : FilePath :=
  if q.isAbsolute then q else ⟨p.anchor, p.parts ++ q.parts⟩

/-- `parent p` leads one name less far. -/
def parent (p : FilePath) : FilePath :=
  ⟨p.anchor, p.parts.dropLast⟩

/-- `name p` is the last name of a path, empty for a bare start. -/
def name (p : FilePath) : String :=
  p.parts.getLastD ""

/-- `splitName cs` cuts a name at its last point, unless that point begins or ends it. -/
def splitName (cs : List Char) : List Char × List Char :=
  let behind := (cs.reverse.takeWhile (· != '.')).length
  let stem := cs.length - behind - 1
  if behind = 0 || behind = cs.length || stem = 0 then (cs, [])
  else (cs.take stem, cs.drop stem)

/-- `stem p` is the last name without its suffix. -/
def stem (p : FilePath) : String :=
  String.ofList (splitName p.name.toList).1

/-- `suffix p` is the last name from its last point on. -/
def suffix (p : FilePath) : String :=
  String.ofList (splitName p.name.toList).2

/-- `relativeTo p root` is the way from `root` to `p`. -/
def relativeTo (p root : FilePath) : Except NotBelow FilePath :=
  if p.anchor = root.anchor && root.parts.isPrefixOf p.parts then
    .ok ⟨.relative, p.parts.drop root.parts.length⟩
  else .error ⟨p.text, root.bareText⟩

/-- Stem and suffix make up the name. -/
theorem split_name_append (cs : List Char) : (splitName cs).1 ++ (splitName cs).2 = cs := by
  unfold splitName
  simp only
  split <;> simp

end FilePath

end SceneLint
