import SceneLint.Script.Basic

/-!
# Scenes

A `Scene` is a scene file: the type of its master node, whether other nodes follow, and the script
its first script resource names, if that script was built. `Scene.build` reads the two kinds of
lines that matter, resources and nodes, and looks at no other line.
-/

namespace SceneLint

/-- A `Scene` is a scene file and what it holds. -/
structure Scene where
  fullName : String
  name : String
  path : FilePath
  contents : String
  masterType : String
  hasChildren : Bool
  script : Option Script
deriving DecidableEq

/-- A `SceneFault` is why no scene can be made of a file. -/
inductive SceneFault where
  | unclosedResource (text : String)
  | noMaster
  | untypedMaster (text : String)
  | unclosedType (text : String)
deriving DecidableEq

/-- A `ScriptIndex` lists scripts under the resource paths by which scenes name them. -/
abbrev ScriptIndex := List (String × Script)

namespace ScriptIndex

/-- `add index s` enters a script under its resource path, unless the path is taken. -/
def add (index : ScriptIndex) (s : Script) : ScriptIndex :=
  if (index.lookup s.resource).isSome then index else index ++ [(s.resource, s)]

/-- `ofScripts scripts` enters scripts in their order, so of two with one path the first counts. -/
def ofScripts (scripts : List Script) : ScriptIndex :=
  scripts.foldl add []

end ScriptIndex

namespace Scene

/-- `resourceMark` starts a line that names a script resource. -/
def resourceMark : List Char := "[ext_resource type=\"Script\" path=\"".toList

/-- `nodeMark` starts a line that opens a node. -/
def nodeMark : List Char := "[node ".toList

/-- `typeMark` stands before the type of a node. -/
def typeMark : List Char := "type=\"".toList

/-- `untilQuote? cs` is the text before the next quote. -/
def untilQuote? (cs : List Char) : Option (List Char) :=
  (Text.cut? ['"'] cs).map (·.1)

/-- `scriptResource lines` is the path on the first line that names a script resource. -/
def scriptResource : List (List Char) → Except SceneFault (Option String)
  | [] => .ok none
  | line :: lines =>
      match resourceMark.isPrefixOf? line with
      | none => scriptResource lines
      | some rest =>
          match untilQuote? rest with
          | some path => .ok (some (String.ofList path))
          | none => .error (.unclosedResource (String.ofList line))

/-- `typeOf line` is the type on a line that opens a node. -/
def typeOf (line : List Char) : Except SceneFault String :=
  match Text.cut? typeMark line with
  | none => .error (.untypedMaster (String.ofList line))
  | some (_, rest) =>
      match untilQuote? rest with
      | some type => .ok (String.ofList type)
      | none => .error (.unclosedType (String.ofList line))

/-- `nodeLines lines` is the lines that open a node. -/
def nodeLines (lines : List (List Char)) : List (List Char) :=
  lines.filter (List.isPrefixOf nodeMark)

/-- `master lines` is the type of the first node, and whether another follows. -/
def master (lines : List (List Char)) : Except SceneFault (String × Bool) :=
  match nodeLines lines with
  | [] => .error .noMaster
  | line :: others => (typeOf line).map fun type => (type, !others.isEmpty)

/-- `linked? scripts resource` is the script that the index of the scripts gives for a resource
path. -/
def linked? (scripts : List Script) (resource : Option String) : Option Script :=
  match resource with
  | none => none
  | some resource => (ScriptIndex.ofScripts scripts).lookup resource

/-- `build scripts path contents` is the scene in the file at `path`, linked to one of the given
scripts. -/
def build (scripts : List Script) (path : FilePath) (contents : String) :
    Except SceneFault Scene := do
  let lines := Text.lines contents.toList
  let resource ← scriptResource lines
  let (type, hasChildren) ← master lines
  return ⟨path.name, path.stem, path, contents, type, hasChildren, linked? scripts resource⟩

end Scene

end SceneLint
