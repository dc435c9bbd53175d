import SceneLint.Proofs.Text.Search
import SceneLint.Text.Lines

/-!
# Reading written lines

A line feed parts the lines of a text (`lines_append_line_feed`), so lines that `ofLines` writes one
below the other are read apart (`lines_of_lines_append`), and each of them is read as it was written
unless it is empty or holds a character of a line ending (`lines_of_lines_cons`).

`withReturns` writes a carriage return before every line feed. A text that holds no carriage return
has the same lines with it as without (`lines_with_returns`): cutting off the first line leaves a
shorter text (`lines_append_cons`), and each line loses the one carriage return it was given
(`drop_return_concat`).
-/

namespace SceneLint.Text

/-- `withReturns cs` is `cs` with a carriage return before every line feed. -/
def withReturns (cs : List Char) : List Char :=
  cs.flatMap fun c => if c = '\n' then ['\r', '\n'] else [c]

/-- `returned s` is the text `s` with a carriage return before every line feed. -/
def returned (s : String) : String :=
  String.ofList (withReturns s.toList)

variable {line rest cs : List Char} {c : Char}

/-- The characters of a text with carriage returns. -/
@[simp] theorem to_list_returned (s : String) : (returned s).toList = withReturns s.toList :=
  String.toList_ofList

/-- A line feed is given its carriage return. -/
theorem with_returns_line_feed (cs : List Char) :
    withReturns ('\n' :: cs) = '\r' :: '\n' :: withReturns cs := rfl

/-- Any other character stays as it is. -/
theorem with_returns_cons (h : c ≠ '\n') (cs : List Char) :
    withReturns (c :: cs) = c :: withReturns cs := by
  simp [withReturns, h]

/-- A text without line feeds stays as it is. -/
theorem with_returns_of_not_mem (h : '\n' ∉ line) : withReturns line = line := by
  induction line with
  | nil => rfl
  | cons c line ih =>
      rw [List.mem_cons, not_or] at h
      rw [with_returns_cons (Ne.symm h.1), ih h.2]

/-- Two texts are given their carriage returns one after the other. -/
theorem with_returns_append (a b : List Char) :
    withReturns (a ++ b) = withReturns a ++ withReturns b :=
  List.flatMap_append

/-! ## Cutting off the first line -/

/-- The text in front of a line feed is the first line. -/
theorem lines_append_cons (h : '\n' ∉ line) :
    lines (line ++ '\n' :: rest) = dropReturn line :: lines rest := by
  obtain ⟨piece, pieces, hpieces⟩ := List.exists_cons_of_ne_nil (List.splitOn_ne_nil '\n' rest)
  rw [lines, lines, split_on_append_cons h, hpieces]
  rfl

/-- A line loses the carriage return at its end. -/
theorem drop_return_concat (line : List Char) : dropReturn (line ++ ['\r']) = line := by
  induction line with
  | nil => rfl
  | cons c line ih =>
      cases line with
      | nil => rfl
      | cons d line =>
          rw [List.cons_append, List.cons_append, dropReturn, ← List.cons_append, ih]
          simp

/-- A line that does not end in a carriage return loses nothing. -/
theorem drop_return_of_last (h : line.getLast? ≠ some '\r') : dropReturn line = line := by
  induction line with
  | nil => rfl
  | cons c line ih =>
      cases line with
      | nil =>
          have hc : c ≠ '\r' := by simpa using h
          simp [dropReturn, hc]
      | cons d line =>
          rw [List.getLast?_cons_cons] at h
          rw [dropReturn, ih h]
          simp

/-- A line without carriage returns loses nothing. -/
theorem drop_return_of_not_mem (h : '\r' ∉ line) : dropReturn line = line :=
  drop_return_of_last fun hlast => h (List.mem_of_getLast? hlast)

/-- An empty text has no lines. -/
@[simp] theorem lines_nil : lines [] = [] := rfl

/-- A text without line feeds is one line, if it shows. -/
theorem lines_of_not_mem (h : '\n' ∉ line) (hne : line ≠ []) : lines line = [dropReturn line] := by
  rw [lines, List.splitOn_eq_singleton h]
  simp [dropFinalEmpty, hne]

/-- Only the last piece of all can be dropped for being empty. -/
theorem drop_final_empty_append (before : List (List Char)) {pieces : List (List Char)}
    (h : pieces ≠ []) : dropFinalEmpty (before ++ pieces) = before ++ dropFinalEmpty pieces := by
  induction before with
  | nil => rfl
  | cons piece before ih =>
      obtain ⟨next, others, hnext⟩ :=
        List.exists_cons_of_ne_nil (List.append_ne_nil_of_right_ne_nil before h)
      rw [List.cons_append, List.cons_append, ← ih, hnext]
      rfl

/-- The lines of a text are those up to a line feed and those behind it. -/
theorem lines_append_line_feed (a b : List Char) :
    lines (a ++ '\n' :: b) = lines (a ++ ['\n']) ++ lines b := by
  have hpieces : dropFinalEmpty (List.splitOn '\n' (a ++ '\n' :: b)) =
      a.splitOn '\n' ++ dropFinalEmpty (b.splitOn '\n') := by
    rw [split_on_append, drop_final_empty_append _ (List.splitOn_ne_nil '\n' b)]
  have hfirst : dropFinalEmpty (List.splitOn '\n' (a ++ ['\n'])) = a.splitOn '\n' := by
    rw [split_on_append, drop_final_empty_append _ (List.splitOn_ne_nil '\n' [])]
    exact List.append_nil _
  rw [lines, lines, lines, hpieces, hfirst, List.map_append]

/-! ## Writing lines -/

/-- `ofLines closed lines` writes lines one below the other, with a line feed behind the last one if
the text is closed. -/
def ofLines (closed : Bool) : List (List Char) → List Char
  | [] => []
  | [line] => if closed then line ++ ['\n'] else line
  | line :: lines => line ++ '\n' :: ofLines closed lines

/-- A line is written above others with a line feed between them. -/
theorem of_lines_cons (closed : Bool) (line : List Char) {others : List (List Char)}
    (h : others ≠ []) :
    ofLines closed (line :: others) = line ++ '\n' :: ofLines closed others := by
  obtain ⟨next, others, rfl⟩ := List.exists_cons_of_ne_nil h
  rfl

/-- Every line of a closed text ends with a line feed. -/
theorem of_lines_closed_cons (line : List Char) (others : List (List Char)) :
    ofLines true (line :: others) = line ++ '\n' :: ofLines true others := by
  cases others <;> rfl

/-- Lines that are written above others are read apart from them. -/
theorem lines_of_lines_append (closed : Bool) (before : List (List Char))
    {after : List (List Char)} (h : after ≠ []) :
    lines (ofLines closed (before ++ after)) =
      lines (ofLines true before) ++ lines (ofLines closed after) := by
  induction before with
  | nil => rfl
  | cons line before ih =>
      rw [List.cons_append, of_lines_cons closed line (List.append_ne_nil_of_right_ne_nil before h),
        lines_append_line_feed, ih, of_lines_closed_cons,
        lines_append_line_feed line (ofLines true before), List.append_assoc]

/-- A line that is written is read, if it shows and holds no character of a line ending. -/
theorem lines_of_lines_cons (closed : Bool) (others : List (List Char)) (hne : line ≠ [])
    (hfeed : '\n' ∉ line) (hreturn : '\r' ∉ line) :
    lines (ofLines closed (line :: others)) = line :: lines (ofLines closed others) := by
  have hkept := drop_return_of_not_mem hreturn
  by_cases hothers : others = []
  · subst hothers
    cases closed with
    | true => rw [of_lines_closed_cons, lines_append_cons hfeed, hkept]
    | false =>
        change lines line = [line]
        rw [lines_of_not_mem hfeed hne, hkept]
  · rw [of_lines_cons closed line hothers, lines_append_cons hfeed, hkept]

/-! ## Carriage returns -/

/-- A text without carriage returns has the same lines when every line feed is given one. -/
theorem lines_with_returns {cs : List Char} (h : '\r' ∉ cs) :
    lines (withReturns cs) = lines cs := by
  cases hcut : cut? ['\n'] cs with
  | none => rw [with_returns_of_not_mem (cut?_char_eq_none_iff.1 hcut)]
  | some pieces =>
      obtain ⟨line, rest⟩ := pieces
      obtain ⟨rfl, hline⟩ := cut?_char_eq_some_iff.1 hcut
      simp only [List.mem_append, List.mem_cons, not_or] at h
      obtain ⟨hfree, _, hrest⟩ := h
      -- The carriage return that the first line is given belongs to it until it is dropped.
      have hwritten : withReturns (line ++ '\n' :: rest) =
          (line ++ ['\r']) ++ '\n' :: withReturns rest := by
        rw [with_returns_append, with_returns_of_not_mem hline, with_returns_line_feed]
        simp
      have hreturn : '\n' ∉ line ++ ['\r'] := by simpa using hline
      rw [hwritten, lines_append_cons hreturn, lines_append_cons hline, drop_return_concat,
        drop_return_of_not_mem hfree, lines_with_returns hrest]
termination_by cs.length
decreasing_by
  subst_vars
  simp only [List.length_append, List.length_cons]
  omega

end SceneLint.Text
