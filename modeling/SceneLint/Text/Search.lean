/-!
# Looking for a text inside another

`cut? mark cs` cuts a text at the first occurrence of `mark`; `splitText sep s` cuts it at every
`sep`.
-/

namespace SceneLint.Text

/-- `cut? mark cs` is the text before and after the first occurrence of `mark`. -/
def cut? (mark : List Char) : List Char → Option (List Char × List Char)
  | [] =>
      match mark.isPrefixOf? [] with
      | some rest => some ([], rest)
      | none => none
  | c :: cs =>
      match mark.isPrefixOf? (c :: cs) with
      | some rest => some ([], rest)
      | none =>
          match cut? mark cs with
          | some (before, rest) => some (c :: before, rest)
          | none => none

/-- `splitText sep s` cuts a text at every `sep`. -/
def splitText (sep : Char) (s : String) : List String :=
  (s.toList.splitOn sep).map String.ofList

end SceneLint.Text
