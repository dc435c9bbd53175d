import SceneLint.Path.FilePath
import SceneLint.Text.Lines
import SceneLint.Text.Utf8
import SceneLint.World.Host
import SceneLint.World.Tree

/-!
# The world a run sees

A `World` is a file tree, an environment, a working directory, what may not be touched, and a
host. Every operation of the library is a function of it. `find` follows a path the way an operating
system does: links are followed where they stand, at most forty of them, and `..` leaves the
directory that was actually reached.

`stat` and `lstat` ask the system what lies at a path, and the system may refuse to tell. Absence is
no such refusal: `has`, `hasDirectory`, `hasFile` and `hasLink` then say that nothing of the kind is
there. Every other error of the system is theirs, too.
-/

namespace SceneLint

/-- `Denied` lists the paths, as written, that may not be listed, read, or asked for their kind. -/
structure Denied where
  list : List String
  read : List String
  kind : List String

/-- A `World` is all that a run depends on. -/
structure World where
  tree : Tree
  environment : List (String × String)
  working : List String
  denied : Denied
  host : Host

/-- A `SystemFault` is a reason for which the system refuses an operation on a path. -/
inductive SystemFault where
  | noEntry
  | denied
  | entryExists
  | notDirectory
  | isDirectory
  | nameTooLong
  | tooManyLinks
deriving DecidableEq

/-- `SystemFault.number` is the number of a fault. -/
def SystemFault.number : SystemFault → Nat
  | .noEntry => 2
  | .denied => 13
  | .entryExists => 17
  | .notDirectory => 20
  | .isDirectory => 21
  | .nameTooLong => 36
  | .tooManyLinks => 40

/-- `SystemFault.text` is the wording of a fault. -/
def SystemFault.text : SystemFault → String
  | .noEntry => "No such file or directory"
  | .denied => "Permission denied"
  | .entryExists => "File exists"
  | .notDirectory => "Not a directory"
  | .isDirectory => "Is a directory"
  | .nameTooLong => "File name too long"
  | .tooManyLinks => "Too many levels of symbolic links"

/-- `SystemFault.isAbsence fault` says that a fault means no more than that nothing is there. -/
def SystemFault.isAbsence : SystemFault → Bool
  | .noEntry | .notDirectory | .tooManyLinks => true
  | .denied | .entryExists | .isDirectory | .nameTooLong => false

/-- A `SystemError` is a fault and the path it concerns. -/
structure SystemError where
  fault : SystemFault
  path : String
deriving DecidableEq

/-- `SystemError.message` gives number, wording and path. -/
def SystemError.message (e : SystemError) : String :=
  "[Errno " ++ toString e.fault.number ++ "] " ++ e.fault.text ++ ": " ++ Text.quoted e.path

namespace World

/-- `linkLimit` is how many links one path may lead through. -/
def linkLimit : Nat := 40

/-- `nameLimit` is how many octets the name of an entry may have. -/
def nameLimit : Nat := 255

/-- `pathLimit` is how many octets a path may have, one that closes it counted. -/
def pathLimit : Nat := 4096

/-- `variableValue? w name` is the value of an environment variable. -/
def variableValue? (w : World) (name : String) : Option String :=
  w.environment.lookup name

/-- `workingPath w` is the working directory as a path. -/
def workingPath (w : World) : FilePath :=
  ⟨.root, w.working⟩

/-- A `Step` is how far a path leads before a link has to be followed. -/
inductive Step where
  | found (place : List String) (t : Tree)
  | refused (fault : SystemFault)
  | link (place : List String) (target : String) (names : List String)

/-- `walk tree follow place names` follows names from the directory at `place` up to the first
link; `follow` says that a link at the very end is followed too. -/
def walk (tree : Tree) (follow : Bool) : List String → List String → Step
  | place, [] =>
      match tree.lookup place with
      | some t => .found place t
      | none => .refused .noEntry
  | place, name :: names =>
      match tree.lookup place with
      | some (.directory entries) =>
          if name = ".." then walk tree follow place.dropLast names
          else if name = "." then walk tree follow place names
          else if nameLimit < name.utf8ByteSize then .refused .nameTooLong
          else
            match Tree.child? name entries with
            | none => .refused .noEntry
            | some (.link target) =>
                if names.isEmpty && !follow then .found (place ++ [name]) (.link target)
                else .link place target names
            | some _ => walk tree follow (place ++ [name]) names
      | some _ => .refused .notDirectory
      | none => .refused .noEntry

/-- `targetNames target` is the names that a link leads through. A slash at its end asks for a
directory, as a point behind it would. -/
def targetNames (target : String) : List String :=
  let names := (Text.splitText '/' target).filter (· != "")
  if target.toList.getLast? = some '/' then names ++ ["."] else names

/-- `walkLinks tree follow links place names` follows names and at most `links` links. -/
def walkLinks (tree : Tree) (follow : Bool) :
    Nat → List String → List String → Except SystemFault (List String × Tree)
  | links, place, names =>
      match walk tree follow place names with
      | .found place t => .ok (place, t)
      | .refused fault => .error fault
      | .link place target names =>
          match links with
          | 0 => .error .tooManyLinks
          | links + 1 =>
              if target = "" then .error .noEntry
              else
                walkLinks tree follow links
                  (if (FilePath.ofString target).isAbsolute then [] else place)
                  (targetNames target ++ names)

/-- `startOf w p` is the directory a path starts from. -/
def startOf (w : World) (p : FilePath) : List String :=
  if p.isAbsolute then [] else w.working

/-- `find w p` is what lies at a path once links are followed, with its place. -/
def find (w : World) (p : FilePath) : Except SystemFault (List String × Tree) :=
  walkLinks w.tree true linkLimit (w.startOf p) p.parts

/-- `findEntry w p` is what lies at a path, without following a link at its end. -/
def findEntry (w : World) (p : FilePath) : Except SystemFault (List String × Tree) :=
  walkLinks w.tree false linkLimit (w.startOf p) p.parts

/-- `reached p found` is what lies at a path that leads to `found`, if the path is not too long. -/
def reached (p : FilePath) (found : Except SystemFault (List String × Tree)) :
    Except SystemError Tree :=
  if pathLimit ≤ p.text.utf8ByteSize then .error ⟨.nameTooLong, p.text⟩
  else
    match found with
    | .error fault => .error ⟨fault, p.text⟩
    | .ok (_, t) => .ok t

/-- `asked w p found` is what the system tells of a path that leads to `found`. -/
def asked (w : World) (p : FilePath) (found : Except SystemFault (List String × Tree)) :
    Except SystemError Tree :=
  if w.denied.kind.contains p.text then .error ⟨.denied, p.text⟩ else reached p found

/-- `stat w p` is what lies at a path once links are followed, if the system tells. -/
def stat (w : World) (p : FilePath) : Except SystemError Tree :=
  w.asked p (w.find p)

/-- `lstat w p` is what lies at a path, without following a link at its end, if the system tells. -/
def lstat (w : World) (p : FilePath) : Except SystemError Tree :=
  w.asked p (w.findEntry p)

/-- `hasNul p` says that a path holds the one character no path may hold. -/
def hasNul (p : FilePath) : Bool :=
  p.parts.any fun name => name.toList.contains (Char.ofNat 0)

/-- `holds is p told` says whether what the system tells of a path is of a kind. -/
def holds (is : Tree → Bool) (p : FilePath) (told : Except SystemError Tree) :
    Except SystemError Bool :=
  if hasNul p then .ok false
  else
    match told with
    | .ok t => .ok (is t)
    | .error e => if e.fault.isAbsence then .ok false else .error e

/-- `has w p` says whether something lies at a path. -/
def has (w : World) (p : FilePath) : Except SystemError Bool :=
  holds (fun _ => true) p (w.stat p)

/-- `hasDirectory w p` says whether a directory lies at a path. -/
def hasDirectory (w : World) (p : FilePath) : Except SystemError Bool :=
  holds Tree.isDirectory p (w.stat p)

/-- `hasFile w p` says whether a file lies at a path. -/
def hasFile (w : World) (p : FilePath) : Except SystemError Bool :=
  holds Tree.isFile p (w.stat p)

/-- `hasLink w p` says whether a link lies at a path. -/
def hasLink (w : World) (p : FilePath) : Except SystemError Bool :=
  holds Tree.isLink p (w.lstat p)

/-- `octets w p` is the content of the file at a path. -/
def octets (w : World) (p : FilePath) : Except SystemError (List UInt8) :=
  if w.denied.read.contains p.text then .error ⟨.denied, p.text⟩
  else
    match reached p (w.find p) with
    | .error e => .error e
    | .ok (.file content) => .ok content
    | .ok _ => .error ⟨.isDirectory, p.text⟩

end World

/-- A `ReadError` is why a file could not be read as text. -/
inductive ReadError where
  | system (e : SystemError)
  | malformed (e : Text.Utf8.Malformed)
  | nulInPath

/-- `ReadError.message` is the wording of a read error. -/
def ReadError.message : ReadError → String
  | .system e => e.message
  | .malformed e => e.message
  | .nulInPath => "embedded null byte"

namespace World

/-- `content w decode p` reads a file, decodes it and unifies its line breaks. -/
def content (w : World) (decode : List UInt8 → Except Text.Utf8.Malformed (List Char))
    (p : FilePath) : Except ReadError (List Char) :=
  if hasNul p then .error .nulInPath
  else
    match w.octets p with
    | .error e => .error (.system e)
    | .ok octets =>
        match decode octets with
        | .error e => .error (.malformed e)
        | .ok cs => .ok (Text.unifyBreaks cs)

/-- `readText w p` reads a source file as text. -/
def readText (w : World) (p : FilePath) : Except ReadError String :=
  (w.content Text.Utf8.decode p).map String.ofList

end World

end SceneLint
