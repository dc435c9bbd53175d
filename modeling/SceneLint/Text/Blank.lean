/-!
# Blank characters and trimming

`isBlank` is the class of characters that trimming removes: the ASCII controls that separate text,
the information separators, and the spaces and line separators of the other scripts. Zero-width
characters and the byte order mark are not blank. `trim` removes blanks from both ends; what
trimming the front leaves starts with none, and a text that starts with none is left alone.
-/

namespace SceneLint.Text

/-- `isBlank c` holds of the characters that trimming removes. -/
def isBlank (c : Char) : Bool :=
  let n := c.toNat
  (0x09 ≤ n && n ≤ 0x0D) || (0x1C ≤ n && n ≤ 0x20) || n == 0x85 || n == 0xA0 || n == 0x1680 ||
    (0x2000 ≤ n && n ≤ 0x200A) || n == 0x2028 || n == 0x2029 || n == 0x202F || n == 0x205F ||
    n == 0x3000

/-- `trimStart cs` drops the blanks at the front. -/
def trimStart (cs : List Char) : List Char :=
  cs.dropWhile isBlank

/-- `trimEnd cs` drops the blanks at the back. -/
def trimEnd (cs : List Char) : List Char :=
  (cs.reverse.dropWhile isBlank).reverse

/-- `trim cs` drops the blanks at both ends. -/
def trim (cs : List Char) : List Char :=
  trimEnd (trimStart cs)

/-- `trimmed s` is the text `s` without the blanks at its ends. -/
def trimmed (s : String) : String :=
  String.ofList (trim s.toList)

/-- What is left after trimming the front starts with no blank. -/
theorem is_blank_head_trim_start {cs rest : List Char} {c : Char}
    (h : trimStart cs = c :: rest) : isBlank c = false := by
  induction cs with
  | nil => simp [trimStart] at h
  | cons d ds ih =>
      by_cases hd : isBlank d = true
      · rw [trimStart, List.dropWhile_cons, if_pos hd] at h
        exact ih h
      · rw [trimStart, List.dropWhile_cons, if_neg hd] at h
        cases h
        simpa using hd

/-- Text that starts with no blank loses nothing at the front. -/
theorem trim_start_cons_of_not_blank {c : Char} (rest : List Char) (h : isBlank c = false) :
    trimStart (c :: rest) = c :: rest := by
  simp [trimStart, h]

end SceneLint.Text
