import SceneLint.Console.Markup
import SceneLint.Json.Printer
import SceneLint.Project.Check

/-!
# Summaries of a check

A `Summary` is what is shown of a report: the root, how many files were checked, and the problems
in three sections. `toJson` is its form for machines and `markup` its form for a terminal, where
every text of the project is escaped.
-/

namespace SceneLint

/-- A `Summary` is what is shown of a report. -/
structure Summary where
  root : String
  scripts : Nat
  scenes : Nat
  general : List Problem
  script : List Problem
  scene : List Problem
deriving DecidableEq

/-- `Report.summary r` is what is shown of a report. -/
def Report.summary (r : Report) : Summary :=
  ⟨r.root.text, r.scripts.length, r.scenes.length, r.general, r.script, r.scene⟩

/-- `Problem.toJson p` is a problem as an object. -/
def Problem.toJson (p : Problem) : Json :=
  .object [("file", .text p.file), ("path", .text p.path), ("code", .text p.code),
    ("message", .text p.message)]

namespace Summary

/-- `total s` is the number of problems. -/
def total (s : Summary) : Nat :=
  s.general.length + s.script.length + s.scene.length

/-- `hasProblems s` says that there is a problem. -/
def hasProblems (s : Summary) : Bool :=
  0 < s.total

/-- `toJson s` is a summary as an object. -/
def toJson (s : Summary) : Json :=
  .object
    [ ("project_root", .text s.root), ("scripts_checked", .int s.scripts),
      ("scenes_checked", .int s.scenes),
      ("general_problems", .list (s.general.map Problem.toJson)),
      ("script_problems", .list (s.script.map Problem.toJson)),
      ("scene_problems", .list (s.scene.map Problem.toJson)) ]

/-- `bullet p` is the line of a problem. -/
def bullet (p : Problem) : String :=
  "  [red]✗[/red] " ++ Console.escape p.message

/-- `sectionLines title problems` is the lines of a section, a blank one first. -/
def sectionLines (title : String) (problems : List Problem) : List String :=
  if problems.isEmpty then ["", "[bold]" ++ title ++ "[/bold]: [green]none[/green]"]
  else
    ["", "[bold]" ++ title ++ "[/bold] (" ++ toString problems.length ++ "):"] ++
      problems.map bullet

/-- `verdictLine s` is the last line of a summary. -/
def verdictLine (s : Summary) : String :=
  if s.hasProblems then "[red]Found " ++ toString s.total ++ " problems[/red]"
  else "[green]No problems found[/green]"

/-- `markupLines s` is the lines of a summary for a terminal. -/
def markupLines (s : Summary) : List String :=
  [ "[bold cyan]godotcheck[/bold cyan] " ++ Console.escape s.root,
    "Checked " ++ toString s.scripts ++ " scripts and " ++ toString s.scenes ++ " scenes" ] ++
    sectionLines "General problems" s.general ++
    sectionLines "Script problems" s.script ++
    sectionLines "Scene problems" s.scene ++
    ["", s.verdictLine]

/-- `markup s` is a summary for a terminal. -/
def markup (s : Summary) : String :=
  "\n".intercalate s.markupLines

end Summary

end SceneLint
