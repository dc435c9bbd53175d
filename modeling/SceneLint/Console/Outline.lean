import SceneLint.Console.Terminal

/-!
# Outlines

An `Outline` is a label with outlines below it. It is printed with lines that lead from each label
to those below; a label of several lines keeps its lead.
-/

namespace SceneLint.Console

/-- An `Outline` is a label with outlines below it. -/
inductive Outline where
  | node (label : String) (below : List Outline)

namespace Outline

/-- `leadWidth` is how many columns lead to a label, for each label above it. -/
def leadWidth : Nat := 4

mutual
/-- `printedLabels t taken o` is an outline with every label as a reader sees it, where `taken`
columns lead to the outline. -/
def printedLabels (t : Terminal) (taken : Nat) : Outline → Except PrintFault Outline
  | .node label below => do
      let label ← t.print taken label
      let below ← printedBelow t (taken + leadWidth) below
      return .node label below

/-- `printedBelow t taken outlines` is outlines with every label as a reader sees it. -/
def printedBelow (t : Terminal) (taken : Nat) : List Outline → Except PrintFault (List Outline)
  | [] => .ok []
  | outline :: outlines => do
      let first ← printedLabels t taken outline
      let others ← printedBelow t taken outlines
      return first :: others
end

/-- `labelLines first next label` is the lines of a label behind their leads. -/
def labelLines (first next label : String) : List String :=
  match Text.splitText '\n' label with
  | [] => [first]
  | line :: lines => (first ++ line) :: lines.map (next ++ ·)

mutual
/-- `lines margin isLast o` is the lines of an outline that stands below another. -/
def lines (margin : String) (isLast : Bool) : Outline → List String
  | .node label below =>
      let further := margin ++ (if isLast then "    " else "│   ")
      labelLines (margin ++ (if isLast then "└── " else "├── ")) further label ++
        linesBelow further below

/-- `linesBelow margin outlines` is the lines of outlines below another. -/
def linesBelow (margin : String) : List Outline → List String
  | [] => []
  | outline :: outlines => lines margin outlines.isEmpty outline ++ linesBelow margin outlines
end

/-- `allLines o` is the lines of an outline. -/
def allLines : Outline → List String
  | .node label below => labelLines "" "" label ++ linesBelow "" below

/-- `text o` is an outline as it is written, each line closed. -/
def text (o : Outline) : String :=
  String.join (o.allLines.map (· ++ "\n"))

/-- `shown t o` is what a reader sees of an outline. -/
def shown (t : Terminal) (o : Outline) : Except PrintFault String :=
  (o.printedLabels t 0).map text

end Outline

end SceneLint.Console
