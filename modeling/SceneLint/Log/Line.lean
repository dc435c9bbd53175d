import SceneLint.Json.Printer
import SceneLint.Log.State

/-!
# Lines of the log

How an event is written into a log file. The formats for machines hold the message and the fields
with time and level behind them. The format for a reader gives time and level twice, the message
in a column, the fields in the order of their names, and the name of the logger.
-/

namespace SceneLint.Log

/-- `padded width s` is a text with blanks behind it up to a width. -/
def padded (width : Nat) (s : String) : String :=
  s ++ String.ofList (List.replicate (width - s.length) ' ')

/-- `stamped time event` is the fields of an event with its time and level. -/
def stamped (time : String) (event : Event) : List (String × Data) :=
  putField "level" (.text event.severity.name)
    (putField "timestamp" (.text time) event.fields)

/-- `jsonLine time event` is an event as an object on one line. -/
def jsonLine (time : String) (event : Event) : String :=
  Json.renderLine (.object
    [ ("msg", .text event.message),
      ("extra", .object ((stamped time event).map fun field => (field.1, field.2.toJson))) ])

/-- `structuredLine time event` is an event as two literals. -/
def structuredLine (time : String) (event : Event) : String :=
  let fields := Data.map ((stamped time event).map fun field => (.text field.1, field.2))
  "msg=" ++ Text.quoted event.message ++ " extra=" ++ fields.literal

/-- `isBare s` says that a text is written without quotes on the console. -/
def isBare (s : String) : Bool :=
  !s.toList.any fun c => [' ', '\t', '=', '\r', '\n', '"', '\''].contains c

/-- `consoleValue v` is a value on the console. -/
def consoleValue : Data → String
  | .text s => if isBare s then s else Text.quoted s
  | v => v.literal

/-- `stampText time severity` is the time and level before a message on the console. -/
def stampText (time : String) (severity : Severity) : String :=
  time ++ " [" ++ padded 9 severity.name ++ "]"

/-- `dropBlanksEnd s` drops the spaces at the end of a text. -/
def dropBlanksEnd (s : String) : String :=
  String.ofList (s.toList.reverse.dropWhile (· == ' ')).reverse

/-- `consoleBody time event` is time, level, message and fields on the console. -/
def consoleBody (time : String) (event : Event) : String :=
  let fields := event.fields.mergeSort fun a b => decide (a.1 ≤ b.1)
  let columns := stampText time event.severity :: padded 30 event.message ::
    fields.map fun field => field.1 ++ "=" ++ consoleValue field.2
  dropBlanksEnd (" ".intercalate columns)

/-- `consoleLine time logger event` is an event on the console. -/
def consoleLine (time logger : String) (event : Event) : String :=
  stampText time event.severity ++ " " ++ consoleBody time event ++ " [" ++ logger ++ "]"

/-- `line renderer time logger event` is an event on a line. -/
def line (renderer : Renderer) (time logger : String) (event : Event) : String :=
  match renderer with
  | .console => consoleLine time logger event
  | .json => jsonLine time event
  | .structured => structuredLine time event

/-- `text state time logger events` is what is written into a log file. -/
def text (state : LogState) (time logger : String) (events : List Event) : String :=
  let kept := events.filter fun event => state.allows event.severity
  String.join (kept.map fun event => line state.renderer time logger event ++ "\n")

end SceneLint.Log
