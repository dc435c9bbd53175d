import SceneLint.Diagnostic
import SceneLint.Scene.Basic

/-!
# Rules for scenes

A scene has children or a script but not both, its master node is of an allowed type, and a script
on the master is no reference and stands on a plain node. `Scene.breaches` checks these in order.
-/

namespace SceneLint

/-- A `SceneRule` is a convention that scenes are held to. -/
inductive SceneRule where
  | childrenOrScript
  | masterType
  | attachedScript
deriving DecidableEq

/-- A `SceneBreach` is a way in which a scene breaks a rule. -/
inductive SceneBreach where
  | childrenWithScript
  | masterType (allowed : List String)
  | referenceOnMaster
  | scriptOnTypedMaster
deriving DecidableEq

/-- `alternatives names` writes names as a choice: the last one behind the word for it. -/
def alternatives (names : List String) : String :=
  match names with
  | [] => ""
  | [name] => name
  | [first, second] => first ++ " or " ++ second
  | _ => ", ".intercalate names.dropLast ++ ", or " ++ names.getLastD ""

namespace SceneBreach

/-- `code b` is the code under which a breach is reported. -/
def code : SceneBreach → String
  | .childrenWithScript => "children-with-script"
  | .masterType _ => "master-type"
  | .referenceOnMaster => "reference-on-master"
  | .scriptOnTypedMaster => "script-on-typed-master"

/-- `wording b` is what is said of a scene behind its name. -/
def wording : SceneBreach → String
  | .childrenWithScript => "scene has children and script"
  | .masterType allowed => "scene master node is not of type " ++ alternatives allowed
  | .referenceOnMaster => "reference script should not be on scene master"
  | .scriptOnTypedMaster => "isn't type Node but has a behaviour or value script"

/-- `message b file` is what is said of the file at fault. -/
def message (b : SceneBreach) (file : String) : String :=
  file ++ " " ++ b.wording

/-- `diagnostic b file` tells a user of a breach. -/
def diagnostic (b : SceneBreach) (file : String) : Diagnostic :=
  ⟨.rule file b.code, b.message file, none, none⟩

end SceneBreach

namespace SceneRule

/-- `all` is the rules in the order in which they are checked. -/
def all : List SceneRule := [.childrenOrScript, .masterType, .attachedScript]

/-- `breach? allowed rule s` is how a scene breaks a rule, if it does. -/
def breach? (allowed : List String) (rule : SceneRule) (s : Scene) : Option SceneBreach :=
  match rule with
  | .childrenOrScript =>
      if s.hasChildren && s.script.isSome then some .childrenWithScript else none
  | .masterType => if allowed.contains s.masterType then none else some (.masterType allowed)
  | .attachedScript =>
      match s.script with
      | none => none
      | some script =>
          if script.kind = .reference then some .referenceOnMaster
          else if s.masterType = "Node" then none
          else some .scriptOnTypedMaster

end SceneRule

namespace Scene

/-- `breaches allowed s` is every breach of a scene, in the order of the rules. -/
def breaches (allowed : List String) (s : Scene) : List SceneBreach :=
  SceneRule.all.filterMap (·.breach? allowed s)

/-- `verdict allowed failFast s` is the breaches that are reported: all, or only the first. -/
def verdict (allowed : List String) (failFast : Bool) (s : Scene) : List SceneBreach :=
  if failFast then (s.breaches allowed).take 1 else s.breaches allowed

/-- `problems allowed failFast s` is the problems of a scene. -/
def problems (allowed : List String) (failFast : Bool) (s : Scene) : List Problem :=
  (s.verdict allowed failFast).map fun b =>
    ⟨s.fullName, s.path.text, b.code, b.message s.fullName⟩

end Scene

end SceneLint
