import SceneLint.Console.Print
import SceneLint.Failure
import SceneLint.Json.Printer
import SceneLint.Log.State

/-!
# Outcomes of a command

An `Outcome` is what a command printed, noted and ended with. `Outcome.ofFailure` tells a user of
a failure, as text on the error stream or as JSON on the output. The texts of a failure are printed
as they are, its trace included, so brackets in them are read as markup.
-/

namespace SceneLint

/-- An `Outcome` is what came of a command. -/
structure Outcome where
  exitCode : Int
  stdout : String
  stderr : String
  crash : Option Failure
  events : List Event

namespace Outcome

/-- `fatalCode` is the exit code of a command that could not do its work. -/
def fatalCode : Int := 2

/-- `crashCode` is the exit code of a command that broke off. -/
def crashCode : Int := 1

/-- `crashed f` is a command that broke off before it printed anything. -/
def crashed (f : Failure) : Outcome :=
  ⟨crashCode, "", "", some f, []⟩

/-- `printing host code markup events` is a command that prints a text and ends with a code. -/
def printing (host : Host) (code : Int) (markup : String) (events : List Event) : Outcome :=
  let shown := Console.printAll host.terminal [markup]
  match shown.fault with
  | some fault => ⟨crashCode, shown.text, "", some (.unprintable fault), events⟩
  | none => ⟨code, shown.text, "", none, events⟩

/-- `errorJson message code` is a failure as an object. -/
def errorJson (message : String) (code : Int) : Json :=
  .object [("success", .bool false), ("error", .text message), ("code", .int code)]

/-- `detailMarkup detail` is the line of a detail. -/
def detailMarkup (detail : String × Data) : String :=
  "  [dim]" ++ detail.1 ++ ":[/dim] " ++ detail.2.display

/-- `failureMarkup host verbose f` is what a user is told of a failure. -/
def failureMarkup (host : Host) (verbose : Bool) : Failure → List String
  | .diagnostic d =>
      let hint := match d.hint? with
        | some hint => ["[yellow]→ " ++ hint ++ "[/yellow]"]
        | none => []
      let details := match d.details? with
        | some details =>
            if verbose then "\n[dim]Details:[/dim]" :: details.map detailMarkup else []
        | none => []
      ["[red]✗ " ++ d.message ++ "[/red]"] ++ hint ++ details
  | .input message _ => ["[red]✗ Validation Error: " ++ message ++ "[/red]"]
  | f =>
      if f.isMissingFile then
        ["[red]✗ File not found: " ++ f.message ++ "[/red]",
          "[yellow]→ Check that the file path is correct[/yellow]"]
      else
        ("[red]✗ Unexpected error: " ++ f.message ++ "[/red]") ::
          if verbose then ["\n[dim]Full traceback:[/dim]", host.trace f.kindName f.message]
          else ["[dim]Run with --debug for full error details[/dim]"]

/-- `isUnexpected f` says that a failure is none of those a user is expected to cause. -/
def isUnexpected : Failure → Bool
  | .diagnostic _ => false
  | .input _ _ => false
  | f => !f.isMissingFile

/-- `detailsData details` is details as one value. -/
def detailsData : Option (List (String × Data)) → Data
  | none => .null
  | some details => .map (details.map fun detail => (.text detail.1, detail.2))

/-- `fileName f` is the file that a failure of the system concerns. -/
def fileName : Failure → Data
  | .system e => .text e.path
  | _ => .null

/-- `failureEvent code f` notes a failure that was told as text. -/
def failureEvent (code : Int) (f : Failure) : Event :=
  match f with
  | .diagnostic d =>
      ⟨.error, "godotcheck error occurred",
        [ ("error_type", .text f.kindName), ("message", .text d.message),
          ("hint", .ofText? d.hint), ("details", detailsData d.details),
          ("exit_code", .int code) ]⟩
  | .input message field =>
      ⟨.error, "Invalid command input", [("error", .text message), ("field", .ofText? field)]⟩
  | f =>
      if f.isMissingFile then
        ⟨.error, "File not found",
          [("error", .text f.message), ("filename", fileName f), ("exit_code", .int code)]⟩
      else
        ⟨.error, "Unexpected error occurred",
          [ ("error", .text f.message), ("error_type", .text f.kindName),
            ("exit_code", .int code), ("exc_info", .bool true) ]⟩

/-- `jsonEvent code f` notes a failure that was told as JSON. -/
def jsonEvent (code : Int) (f : Failure) : Event :=
  ⟨.error, "Command failed",
    [ ("error", .text f.message), ("error_type", .text f.kindName), ("exit_code", .int code) ]⟩

/-- `ofFailure host verbose json code f` tells a user of a failure. -/
def ofFailure (host : Host) (verbose json : Bool) (code : Int) (f : Failure) : Outcome :=
  if json then
    ⟨code, (errorJson f.shortMessage code).render ++ "\n", "", none, [jsonEvent code f]⟩
  else
    let shown := Console.printAll host.terminal (failureMarkup host verbose f)
    match shown.fault with
    | some fault => ⟨crashCode, "", shown.text, some (.unprintable fault), []⟩
    | none => ⟨code, "", shown.text, none, [failureEvent code f]⟩

/-- `logged state json f o` is an outcome once its failure has gone into the log. An unexpected
failure carries a trace that the console format cannot write, so there the command breaks off. -/
def logged (state : LogState) (json : Bool) (f : Failure) (o : Outcome) : Outcome :=
  if !json && isUnexpected f && o.crash.isNone && !state.isRouted && state.allows .error then
    { o with exitCode := crashCode, crash := some .unloggable }
  else o

end Outcome

end SceneLint
