import SceneLint.World.Basic

/-!
# Real paths

`resolve` makes a path absolute and free of links. Names that do not exist are kept; `..` goes up
from where the links have led. `expandHome` and `expandVariables` replace what a user may write in
place of a path: a leading tilde, perhaps with the name of a user, and variables behind a dollar
sign.
-/

namespace SceneLint

/-- A `PathFault` is why a path could not be made absolute. -/
inductive PathFault where
  | noHome
  | linkLoop (path : String)
  | nulByte

/-- `PathFault.message` is the wording of a path fault. -/
def PathFault.message : PathFault → String
  | .noHome => "Could not determine home directory."
  | .linkLoop path => "Symlink loop from " ++ Text.quoted path
  | .nulByte => "embedded null byte"

namespace World

/-- A `Trail` is the resolved part of a path: whether it is absolute, and its names, which start
with `..` only where a relative path leaves the working directory. -/
structure Trail where
  isAbsolute : Bool
  names : List String
deriving DecidableEq

namespace Trail

/-- `path t` is a trail as a path. -/
def path (t : Trail) : FilePath :=
  ⟨if t.isAbsolute then .root else .relative, t.names⟩

/-- `up t` is the trail one step up. -/
def up (t : Trail) : Trail :=
  match t.names.getLast? with
  | none => if t.isAbsolute then t else { t with names := [".."] }
  | some name =>
      if name = ".." then { t with names := t.names ++ [".."] }
      else { t with names := t.names.dropLast }

/-- `down t name` is the trail one name further. -/
def down (t : Trail) (name : String) : Trail :=
  { t with names := t.names ++ [name] }

end Trail

/-- `Visited` records where links lead: nowhere yet while they are being followed. -/
abbrev Visited := List (Trail × Option Trail)

/-- A `Resolution` is a trail, whether no loop was met, and the links visited. -/
structure Resolution where
  trail : Trail
  complete : Bool
  visited : Visited

/-- `follow w fuel t names visited` resolves names from a trail. At a loop the link that closes it
and the names behind stay as they are. -/
def follow (w : World) : Nat → Trail → List String → Visited → Resolution
  | 0, t, names, visited => ⟨{ t with names := t.names ++ names }, false, visited⟩
  | _ + 1, t, [], visited => ⟨t, true, visited⟩
  | fuel + 1, t, name :: names, visited =>
      if name = ".." then follow w fuel t.up names visited
      else
        let further := t.down name
        match w.lstat further.path with
        | .ok (.link target) =>
            match visited.lookup further with
            | some (some known) => follow w fuel known names visited
            | some none => ⟨{ further with names := further.names ++ names }, false, visited⟩
            | none =>
                let way := FilePath.ofString target
                let from_ := if way.isAbsolute then ⟨true, []⟩ else t
                let inner := follow w fuel from_ way.parts ((further, none) :: visited)
                if inner.complete then
                  follow w fuel inner.trail names ((further, some inner.trail) :: inner.visited)
                else
                  ⟨{ inner.trail with names := inner.trail.names ++ names }, false, inner.visited⟩
        | _ => follow w fuel further names visited

/-- `normalize names` lets every `..` take back the name before it. -/
def normalize (names : List String) : List String :=
  names.foldl (fun acc name => if name = ".." then acc.dropLast else acc ++ [name]) []

/-- `followFuel` bounds the names and links of one resolution. -/
def followFuel : Nat := 10000

/-- `realPath w p` is the absolute path without links that `p` leads to. -/
def realPath (w : World) (p : FilePath) : FilePath :=
  let result := follow w followFuel ⟨p.isAbsolute, []⟩ p.parts []
  let names := if result.trail.isAbsolute then result.trail.names
    else w.working ++ result.trail.names
  ⟨.root, normalize names⟩

/-- `resolve w p` is the real path of `p`, which must not loop. -/
def resolve (w : World) (p : FilePath) : Except PathFault FilePath :=
  if hasNul p then .error .nulByte
  else
    let real := w.realPath p
    match w.stat real with
    | .error ⟨.tooManyLinks, _⟩ => .error (.linkLoop real.text)
    | _ => .ok real

/-- `closedHome home` is a home directory without the slashes at its end. -/
def closedHome (home : String) : String :=
  let kept := (home.toList.reverse.dropWhile (· == '/')).reverse
  if kept.isEmpty then "/" else String.ofList kept

/-- `home? w user` is the home directory of a user; without a name, the one that the environment
names, or else that of the account of the run. -/
def home? (w : World) (user : String) : Option String :=
  (if user = "" then (w.variableValue? "HOME").or w.host.ownHome else w.host.homes.lookup user).map
    closedHome

/-- `expandHome w p` replaces a leading tilde, and the name of a user behind it, by the home
directory of the user. -/
def expandHome (w : World) (p : FilePath) : Except PathFault FilePath :=
  if p.isAbsolute then .ok p
  else
    match p.parts with
    | [] => .ok p
    | first :: others =>
        match first.toList with
        | '~' :: user =>
            if user.contains (Char.ofNat 0) then .error .nulByte
            else
              match w.home? (String.ofList user) with
              | none => .error .noHome
              | some home =>
                  if home.toList.head? = some '~' then .error .noHome
                  else
                    let home := FilePath.ofString home
                    .ok ⟨home.anchor, home.parts ++ others⟩
        | _ => .ok p

/-- `homePath w` is the path of the home directory. -/
def homePath (w : World) : Except PathFault FilePath :=
  w.expandHome ⟨.relative, ["~"]⟩

/-- `isVariableChar c` says that `c` may stand in the name of a variable without braces. -/
def isVariableChar (c : Char) : Bool :=
  c.isAlphanum || c == '_'

/-- `variableAt? cs` reads the name of a variable behind a dollar sign; it gives the name, the
text it was written as, and the text behind it. -/
def variableAt? (cs : List Char) : Option (List Char × List Char × List Char) :=
  match cs with
  | '\x7b' :: rest =>
      let name := rest.takeWhile (· != '\x7d')
      match rest.drop name.length with
      | '\x7d' :: behind => some (name, '\x7b' :: name ++ ['\x7d'], behind)
      | _ => none
  | _ =>
      let name := cs.takeWhile isVariableChar
      if name.isEmpty then none else some (name, name, cs.drop name.length)

/-- `expandFrom w fuel cs` replaces the variables of a text; unknown ones stay as written. -/
def expandFrom (w : World) : Nat → List Char → List Char
  | 0, cs => cs
  | _ + 1, [] => []
  | fuel + 1, c :: cs =>
      if c = '$' then
        match variableAt? cs with
        | none => c :: expandFrom w fuel cs
        | some (name, written, behind) =>
            match w.variableValue? (String.ofList name) with
            | some value => value.toList ++ expandFrom w fuel behind
            | none => '$' :: written ++ expandFrom w fuel behind
      else c :: expandFrom w fuel cs

/-- `expandVariables w s` replaces the variables of a text once. -/
def expandVariables (w : World) (s : String) : String :=
  String.ofList (expandFrom w (s.toList.length + 1) s.toList)

/-- `expand w p` replaces a leading tilde and resolves the path. -/
def expand (w : World) (p : FilePath) : Except PathFault FilePath := do
  let p ← w.expandHome p
  w.resolve p

end World

end SceneLint
