import SceneLint.Text.CaseTable
import SceneLint.Text.CasedTable

/-!
# Upper and lower case

`upper` and `lower` map every character by the full case mappings of Unicode, so one character may
become several: a sharp s becomes two letters. Characters without a mapping stay as they are. In
lower case the sigma at the end of a word has a form of its own.
-/

namespace SceneLint.Text

/-- `CaseRun.covers run n` says that the run moves the code point `n`. -/
def CaseRun.covers (run : CaseRun) (n : Nat) : Bool :=
  run.first ≤ n && n ≤ run.last && (n - run.first) % run.stride == 0

/-- `mapCase runs expansions c` is the image of `c` in the given tables. -/
def mapCase (runs : List CaseRun) (expansions : List (Nat × List Nat)) (c : Char) : List Char :=
  match runs.find? (·.covers c.toNat) with
  | some run => [Char.ofNat ((c.toNat : Int) + run.shift).toNat]
  | none =>
      match expansions.find? (·.1 == c.toNat) with
      | some (_, images) => images.map Char.ofNat
      | none => [c]

/-- `upperChar c` is the full upper-case image of one character. -/
def upperChar (c : Char) : List Char :=
  if c.toNat < 0x80 then [c.toUpper] else mapCase upperRuns upperExpansions c

/-- `lowerChar c` is the full lower-case image of one character. -/
def lowerChar (c : Char) : List Char :=
  if c.toNat < 0x80 then [c.toLower] else mapCase lowerRuns lowerExpansions c

/-- `inRanges ranges c` says that `c` lies in one of the ranges. -/
def inRanges (ranges : List (Nat × Nat)) (c : Char) : Bool :=
  ranges.any fun range => range.1 ≤ c.toNat && c.toNat ≤ range.2

/-- `meetsCased cs` says that the first character of `cs` that is no mark is a letter with case. -/
def meetsCased : List Char → Bool
  | [] => false
  | c :: cs => if inRanges markRanges c then meetsCased cs else inRanges casedRanges c

/-- `lowerSigma before behind` is a sigma in lower case, behind `before` in reverse and before
`behind`: at the end of a word it has its final form. -/
def lowerSigma (before behind : List Char) : Char :=
  if meetsCased before && !meetsCased behind then 'ς' else 'σ'

/-- `lowerFrom before cs` is `cs` in lower case, behind `before` in reverse. -/
def lowerFrom (before : List Char) : List Char → List Char
  | [] => []
  | c :: cs =>
      (if c = 'Σ' then [lowerSigma before cs] else lowerChar c) ++ lowerFrom (c :: before) cs

/-- `upper s` is the text `s` in upper case. -/
def upper (s : String) : String :=
  String.ofList (s.toList.flatMap upperChar)

/-- `lower s` is the text `s` in lower case. -/
def lower (s : String) : String :=
  String.ofList (lowerFrom [] s.toList)

end SceneLint.Text
