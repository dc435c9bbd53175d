import SceneLint.Diagnostic
import SceneLint.Script.Basic
import SceneLint.Script.Declaration
import SceneLint.Text.Case

/-!
# Rules for scripts

Every script is held to the rules of its kind, in a fixed order. `ScriptRule.breach?` is the breach
of one rule by one script, and `Script.breaches` the breaches of all of them. A breach carries the
wording; the rule gives the code.
-/

namespace SceneLint

/-- A `ScriptRule` is a convention that scripts are held to. -/
inductive ScriptRule where
  | naming
  | nodePath
  | staticTyping
  | className
  | noClassName
  | base
  | exportOnly
deriving DecidableEq

/-- A `ScriptBreach` is a way in which a script breaks a rule. -/
inductive ScriptBreach where
  | notCamelCase
  | nodePath
  | untyped
  | noClassName
  | otherClassName
  | referenceClassName
  | noBase
  | otherBase
  | notExport
deriving DecidableEq

namespace ScriptBreach

/-- `code b` is the code under which a breach is reported. -/
def code : ScriptBreach → String
  | .notCamelCase => "naming"
  | .nodePath => "node-path-shorthand"
  | .untyped => "static-typing"
  | .noClassName => "class-name"
  | .otherClassName => "class-name"
  | .referenceClassName => "reference-class-name"
  | .noBase => "extends"
  | .otherBase => "extends"
  | .notExport => "export-only"

/-- `wording b` is what is said of a script behind its name. -/
def wording : ScriptBreach → String
  | .notCamelCase => "name not upper camel case"
  | .nodePath => "contains $"
  | .untyped => "doesn't use static typing properly"
  | .noClassName => "doesn't have a class_name"
  | .otherClassName => "script name and class_name don't match"
  | .referenceClassName => "reference script has class_name"
  | .noBase => "doesn't extend anything (should extend Node)"
  | .otherBase => "doesn't extend Node"
  | .notExport => "contains a non @export var statement"

/-- `hint b` says how a breach is mended, where that is not plain. -/
def hint : ScriptBreach → Option String
  | .nodePath => some "Use an exported node reference instead of $NodePath"
  | .untyped => some "Declare variables as 'var name: Type = value'"
  | _ => none

end ScriptBreach

namespace Script

/-- `requiredBase` is what every script has to extend. -/
def requiredBase : String := "Node"

/-- `isCamelCase name` says that a name starts with a letter in upper case, or with a character
that has no case, and holds no underscore. -/
def isCamelCase (name : List Char) : Bool :=
  (match name with
    | [] => true
    | c :: _ => Text.upperChar c == [c]) && !name.contains '_'

/-- `isExportLine line` says that a line may stand in a script that only exports variables: it is
blank, a header, a comment or an exported variable. -/
def isExportLine (line : List Char) : Bool :=
  let text := Text.trim line
  text.isEmpty || "class_name".toList.isPrefixOf text ||
    "extends".toList.isPrefixOf text || "#".toList.isPrefixOf text ||
    "@export var ".toList.isPrefixOf text

end Script

namespace ScriptRule

/-- `breach? rule s` is how a script breaks a rule, if it does. -/
def breach? (rule : ScriptRule) (s : Script) : Option ScriptBreach :=
  match rule with
  | .naming => if Script.isCamelCase s.name.toList then none else some .notCamelCase
  | .nodePath => if s.contents.toList.contains '$' then some .nodePath else none
  | .staticTyping =>
      if (Script.segments s.contents.toList).any Script.isUntyped then some .untyped else none
  | .className =>
      match s.className with
      | none => some .noClassName
      | some declared => if declared = s.name then none else some .otherClassName
  | .noClassName => if s.className.isSome then some .referenceClassName else none
  | .base =>
      match s.base with
      | none => some .noBase
      | some target => if target = Script.requiredBase then none else some .otherBase
  | .exportOnly => if s.lines.all Script.isExportLine then none else some .notExport

/-- `rulesFor kind` is the rules for scripts of a kind, in the order in which they are checked. -/
def rulesFor : ScriptKind → List ScriptRule
  | .behaviour => [.naming, .nodePath, .staticTyping, .className, .base]
  | .value => [.naming, .nodePath, .staticTyping, .className, .base, .exportOnly]
  | .reference => [.naming, .nodePath, .staticTyping, .noClassName, .base, .exportOnly]

end ScriptRule

namespace Script

/-- `breaches s` is every breach of a script, in the order of its rules. -/
def breaches (s : Script) : List ScriptBreach :=
  (ScriptRule.rulesFor s.kind).filterMap (·.breach? s)

/-- `verdict failFast s` is the breaches that are reported: all, or only the first. -/
def verdict (failFast : Bool) (s : Script) : List ScriptBreach :=
  if failFast then s.breaches.take 1 else s.breaches

end Script

/-- `ScriptBreach.message b file` is what is said of the file at fault. -/
def ScriptBreach.message (b : ScriptBreach) (file : String) : String :=
  file ++ " " ++ b.wording

/-- `ScriptBreach.diagnostic b file` tells a user of a breach. -/
def ScriptBreach.diagnostic (b : ScriptBreach) (file : String) : Diagnostic :=
  ⟨.rule file b.code, b.message file, b.hint, none⟩

/-- `Script.problems failFast s` is the problems of a script. -/
def Script.problems (failFast : Bool) (s : Script) : List Problem :=
  (s.verdict failFast).map fun b => ⟨s.fullName, s.path.text, b.code, b.message s.fullName⟩

end SceneLint
