import SceneLint.Diagnostic
import SceneLint.Event
import SceneLint.World.Basic

/-!
# Discovery

`discover` finds the files of one extension below a root. Entries are visited in the order of
their names. A directory with a name to skip is left alone, the root too; a link to a directory is
never followed. A directory that may not be listed ends the walk, and so does an entry of which the
system does not tell whether it is a link or a directory, and a directory that lies deeper than
calls may nest. The recursion is on the tree, so links cannot make it run on.
-/

namespace SceneLint

/-- A `DiscoveryFault` is why a project cannot be walked. -/
inductive DiscoveryFault where
  | noRoot (root : String)
  | rootNotDirectory (root : String)
  | unlisted (directory : String)
deriving DecidableEq

namespace DiscoveryFault

/-- `message f` says what could not be walked. -/
def message : DiscoveryFault → String
  | .noRoot root => "Project root does not exist: " ++ root
  | .rootNotDirectory root => "Project root is not a directory: " ++ root
  | .unlisted directory =>
      "Failed to list directory " ++ directory ++ ": " ++
        SystemError.message ⟨.denied, directory⟩

/-- `diagnostic f` tells a user of a fault. -/
def diagnostic (f : DiscoveryFault) : Diagnostic :=
  match f with
  | .noRoot _ =>
      ⟨.discovery, f.message, some "Pass the directory containing project.godot", none⟩
  | .rootNotDirectory _ => ⟨.discovery, f.message, none, none⟩
  | .unlisted directory =>
      ⟨.discovery, f.message, none, some [("directory", .text directory)]⟩

end DiscoveryFault

/-- A `Halt` is what ends a walk: a fault that discovery reports, an error of the system that it
does not look after, or the depth at which the interpreter gives up. -/
inductive Halt where
  | fault (f : DiscoveryFault)
  | system (e : SystemError)
  | tooDeep (message : String)
deriving DecidableEq

/-- A `Walk` is what a walk over a tree noted, what it found, and what stopped it, if anything. -/
structure Walk where
  events : List Event
  found : List FilePath
  halt : Option Halt

namespace Walk

/-- `nothing` is the walk that saw nothing. -/
def nothing : Walk := ⟨[], [], none⟩

/-- `noting event` is the walk that only noted an event. -/
def noting (event : Event) : Walk := ⟨[event], [], none⟩

/-- `stopped halt` is the walk that was stopped at once. -/
def stopped (halt : Halt) : Walk := ⟨[], [], some halt⟩

/-- `andThen a b` goes on with `b` unless `a` was stopped. -/
def andThen (a b : Walk) : Walk :=
  match a.halt with
  | some _ => a
  | none => ⟨a.events ++ b.events, a.found ++ b.found, b.halt⟩

/-- `all walks` is the walks one after the other. -/
def all : List Walk → Walk
  | [] => nothing
  | walk :: walks => walk.andThen (all walks)

/-- `result walk` is the files found, unless the walk was stopped. -/
def result (walk : Walk) : Except Halt (List FilePath) :=
  match walk.halt with
  | some halt => .error halt
  | none => .ok walk.found

end Walk

namespace Discovery

/-- `sortByName entries` puts named things in the order of their names. -/
def sortByName {α : Type} (entries : List (String × α)) : List (String × α) :=
  entries.mergeSort fun a b => decide (a.1 ≤ b.1)

/-- `pick suffix path` finds a file if its suffix is the one looked for. -/
def pick (suffix : String) (path : FilePath) : Walk :=
  if path.suffix = suffix then ⟨[], [path], none⟩ else .nothing

/-- `skipped path` notes a directory that is left alone. -/
def skipped (path : FilePath) : Event :=
  ⟨.debug, "Skipping directory", [("directory", .text path.text)]⟩

/-- `linkSkipped path` notes a link to a directory. -/
def linkSkipped (path : FilePath) : Event :=
  ⟨.debug, "Skipping symlinked directory", [("directory", .text path.text)]⟩

/-- `untold? w path` is why the system does not tell whether a link or a directory lies at a path.
-/
def untold? (w : World) (path : FilePath) : Option SystemError :=
  match w.hasLink path, w.hasDirectory path with
  | .error e, _ => some e
  | .ok _, .error e => some e
  | .ok _, .ok _ => none

/-- `told w path` is the walk that asks what lies at a path and is stopped where nothing is told. -/
def told (w : World) (path : FilePath) : Walk :=
  match untold? w path with
  | some e => .stopped (.system e)
  | none => .nothing

mutual
/-- `visit w suffix skip depth path t` walks over the tree `t` that lies at `path`, going down
through at most `depth` directories. -/
def visit (w : World) (suffix : String) (skip : List String) (depth : Nat) (path : FilePath) :
    Tree → Walk
  | .directory entries =>
      match depth with
      | 0 => .stopped (.tooDeep w.host.tooDeep)
      | depth + 1 =>
          if skip.contains path.name then .noting (skipped path)
          else if w.denied.list.contains path.text then .stopped (.fault (.unlisted path.text))
          else .all ((sortByName (visitEntries w suffix skip depth path entries)).map (·.2))
  | .link _ =>
      match w.hasDirectory path with
      | .ok true => .noting (linkSkipped path)
      | _ => pick suffix path
  | .file _ => pick suffix path

/-- `visitEntries w suffix skip depth path entries` asks about each entry of the directory at
`path` and walks over it. -/
def visitEntries (w : World) (suffix : String) (skip : List String) (depth : Nat)
    (path : FilePath) : List (String × Tree) → List (String × Walk)
  | [] => []
  | (name, t) :: entries =>
      (name, (told w (path.child name)).andThen (visit w suffix skip depth (path.child name) t)) ::
        visitEntries w suffix skip depth path entries
end

/-- `finished root extension count` notes the end of a walk. -/
def finished (root : FilePath) (extension : String) (count : Nat) : Event :=
  ⟨.debug, "Discovered files",
    [("root", .text root.text), ("extension", .text extension), ("count", .int count)]⟩

/-- `walk w root extension skip` looks for the files of an extension below a root. -/
def walk (w : World) (root : FilePath) (extension : String) (skip : List String) : Walk :=
  match w.has root, w.find root with
  | .error e, _ => .stopped (.system e)
  | .ok true, .ok (_, t) =>
      if t.isDirectory then
        let seen := visit w ("." ++ extension) skip w.host.depths.walk root t
        seen.andThen (.noting (finished root extension seen.found.length))
      else .stopped (.fault (.rootNotDirectory root.text))
  | _, _ => .stopped (.fault (.noRoot root.text))

/-- `discover w root extension skip` is the files of an extension below a root. -/
def discover (w : World) (root : FilePath) (extension : String) (skip : List String) :
    Except Halt (List FilePath) :=
  (walk w root extension skip).result

end Discovery

end SceneLint
