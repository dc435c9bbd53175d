import SceneLint.Data.Basic

/-!
# Log events

An `Event` is one entry of the log: how grave it is, what happened, and named values in order.
-/

namespace SceneLint

/-- A `Severity` is how grave an event is. -/
inductive Severity where
  | debug
  | info
  | warning
  | error
  | critical
deriving DecidableEq

/-- `Severity.name` is the word for a severity. -/
def Severity.name : Severity → String
  | .debug => "debug"
  | .info => "info"
  | .warning => "warning"
  | .error => "error"
  | .critical => "critical"

/-- `Severity.rank` orders the severities by a number. -/
def Severity.rank : Severity → Nat
  | .debug => 10
  | .info => 20
  | .warning => 30
  | .error => 40
  | .critical => 50

/-- An `Event` is one entry of the log. -/
structure Event where
  severity : Severity
  message : String
  fields : List (String × Data)

end SceneLint
