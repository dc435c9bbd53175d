import SceneLint.Text.Search

/-!
# Lines of a text

`lines` cuts a text at line feeds. A final line feed opens no further line, and each line loses
one carriage return at its end, so files with either line ending read alike. No other character
ends a line. `unifyBreaks` is the coarser rule applied when a file is read as text: every carriage
return, with or without a line feed, becomes one line feed.
-/

namespace SceneLint.Text

/-- `dropReturn cs` drops one carriage return at the end of a line. -/
def dropReturn : List Char → List Char
  | [] => []
  | [c] => if c = '\r' then [] else [c]
  | c :: cs => c :: dropReturn cs

/-- `dropFinalEmpty pieces` drops the last piece when it is empty. -/
def dropFinalEmpty : List (List Char) → List (List Char)
  | [] => []
  | [piece] => if piece.isEmpty then [] else [piece]
  | piece :: pieces => piece :: dropFinalEmpty pieces

/-- `lines cs` cuts `cs` into its lines. -/
def lines (cs : List Char) : List (List Char) :=
  (dropFinalEmpty (cs.splitOn '\n')).map dropReturn

/-- `linesOf s` is the list of lines of the text `s`. -/
def linesOf (s : String) : List String :=
  (lines s.toList).map String.ofList

/-- `unifyBreaks cs` writes every line break as a single line feed. -/
def unifyBreaks : List Char → List Char
  | [] => []
  | '\r' :: '\n' :: cs => '\n' :: unifyBreaks cs
  | c :: cs => (if c = '\r' then '\n' else c) :: unifyBreaks cs

end SceneLint.Text
