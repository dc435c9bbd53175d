import SceneLint.Data.Basic
import SceneLint.Text.Search

/-!
# Diagnostics

A `Diagnostic` is a fault of the checked project or of its configuration, told to a user: where it
comes from, what is wrong, perhaps how to mend it, and details for whoever looks closer. `text`
writes all of it; a hint or list of details that is empty is not written.
-/

namespace SceneLint

/-- An `Origin` says what kind of fault a diagnostic reports. -/
inductive Origin where
  | general
  | configuration
  | discovery
  | build (file : Option String) (code : String)
  | rule (file : String) (code : String)
deriving DecidableEq

/-- `Origin.kindName` is the name under which a fault of this origin is reported. -/
def Origin.kindName : Origin → String
  | .general => "GodotCheckError"
  | .configuration => "ConfigurationError"
  | .discovery => "DiscoveryError"
  | .build _ _ => "ParseError"
  | .rule _ _ => "RuleViolation"

/-- A `Diagnostic` is a fault told to a user. -/
structure Diagnostic where
  origin : Origin
  message : String
  hint : Option String
  details : Option (List (String × Data))

namespace Diagnostic

/-- `detailLine detail` is one detail on a line. -/
def detailLine (detail : String × Data) : String :=
  "  " ++ detail.1 ++ ": " ++ detail.2.display

/-- `hint? d` is the hint of a diagnostic unless it is empty. -/
def hint? (d : Diagnostic) : Option String :=
  d.hint.filter (· != "")

/-- `details? d` is the details of a diagnostic unless there are none. -/
def details? (d : Diagnostic) : Option (List (String × Data)) :=
  d.details.filter (!·.isEmpty)

/-- `text d` writes a diagnostic over several lines. -/
def text (d : Diagnostic) : String :=
  let hint := match d.hint? with
    | some hint => "\nHint: " ++ hint
    | none => ""
  let details := match d.details? with
    | some details => "\nDetails:\n" ++ "\n".intercalate (details.map detailLine)
    | none => ""
  "Error: " ++ d.message ++ hint ++ details

end Diagnostic

/-- A `Problem` is one line of a report: the file at fault, its path, a code and a message. -/
structure Problem where
  file : String
  path : String
  code : String
  message : String
deriving DecidableEq

/-- `Diagnostic.problem? d path` is the problem that a diagnostic about the file at `path` reports.
A diagnostic that names no file is about the last name of the path. -/
def Diagnostic.problem? (d : Diagnostic) (name path : String) : Option Problem :=
  match d.origin with
  | .build file code => some ⟨(file.filter (· != "")).getD name, path, code, d.message⟩
  | .rule file code => some ⟨if file = "" then name else file, path, code, d.message⟩
  | _ => none

end SceneLint
