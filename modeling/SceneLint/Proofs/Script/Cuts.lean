import SceneLint.Proofs.Script.StaticTyping

/-!
# Where a text is cut into segments

`cuts pieces` is the positions of the keywords that pieces of a text are joined by, and
`keywordPositions text` the positions at which `KeywordFrom` finds a keyword. `segments_exact` says
that the segments of a text lose nothing, that the two lists agree, and that no segment can be cut
again. The text is read from left to right in the proof: `keywordsBehind before cs` is the keywords
that start in `cs` when `before` stands in front of it, and grows or not with each character
(`keywords_behind_cons_of_not`, `keywords_behind_keyword`) as the cuts do (`cuts_from_push_front`).
-/

namespace SceneLint.Script

variable {before cs text segment : List Char} {pieces : List (List Char)} {c : Char} {k : Nat}

/-- A keyword starts at a position exactly when it stands between what is before it and the rest. -/
theorem keyword_from_iff_at : KeywordFrom text k ↔ KeywordAt (text.take k) (text.drop k) := by
  rw [keyword_from_iff]
  constructor
  · rintro ⟨lead, rest, rfl, rfl, hopens⟩
    rw [List.append_assoc, List.take_left, List.drop_left]
    exact ⟨hopens, rest, rfl⟩
  · rintro ⟨hopens, rest, hrest⟩
    have hlength : k ≤ text.length := le_length_of_keyword ⟨rest, hrest⟩
    refine ⟨text.take k, rest, ?_, List.length_take_of_le hlength, hopens⟩
    rw [List.append_assoc, hrest, List.take_append_drop]

/-- Whether a keyword stands between two texts is decided by the end of one and the start of the
other. -/
instance (before after : List Char) : Decidable (KeywordAt before after) :=
  inferInstanceAs (Decidable (_ ∧ _))

/-- Whether a keyword starts at a position is decided by the texts on both sides of it. -/
instance (text : List Char) (k : Nat) : Decidable (KeywordFrom text k) :=
  decidable_of_iff (KeywordAt (text.take k) (text.drop k)) keyword_from_iff_at.symm

/-- `keywordPositions text` is the positions at which a keyword starts, from left to right. -/
def keywordPositions (text : List Char) : List Nat :=
  (List.range text.length).filter fun k => KeywordFrom text k

/-- `cutsFrom k pieces` is the positions of the keywords between pieces that are joined by them,
when the first piece starts at position `k`. -/
def cutsFrom (k : Nat) : List (List Char) → List Nat
  | [] => []
  | [_] => []
  | piece :: pieces =>
      (k + piece.length) :: cutsFrom (k + piece.length + keyword.length) pieces

/-- `cuts pieces` is the positions of the keywords in the text that `pieces` are joined to. -/
def cuts (pieces : List (List Char)) : List Nat :=
  cutsFrom 0 pieces

/-- `keywordsBehind before cs` is the positions inside `cs` at which a keyword starts, in a text
that has `before` in front of `cs`. -/
def keywordsBehind (before cs : List Char) : List Nat :=
  (List.range' before.length cs.length).filter fun k => KeywordFrom (before ++ cs) k

/-! ## Pieces and the keywords between them -/

/-- A character in front of the first piece is the first character of the joined text. -/
theorem join_push_front (c : Char) (pieces : List (List Char)) :
    keyword.intercalate (pushFront c pieces) = c :: keyword.intercalate pieces := by
  match pieces with
  | [] => rfl
  | [_] => rfl
  | _ :: _ :: _ => rfl

/-- An empty piece in front of others puts a keyword in front of the joined text. -/
theorem join_nil_cons (h : pieces ≠ []) :
    keyword.intercalate ([] :: pieces) = keyword ++ keyword.intercalate pieces := by
  obtain ⟨piece, others, rfl⟩ := List.exists_cons_of_ne_nil h
  rfl

/-- A character in front of the first piece moves every cut by one. -/
theorem cuts_from_push_front (k : Nat) (c : Char) (pieces : List (List Char)) :
    cutsFrom k (pushFront c pieces) = cutsFrom (k + 1) pieces := by
  match pieces with
  | [] => rfl
  | [_] => rfl
  | piece :: next :: others =>
      have hlength : k + (c :: piece).length = k + 1 + piece.length := by
        rw [List.length_cons]
        omega
      show (k + (c :: piece).length) :: cutsFrom (k + (c :: piece).length + keyword.length) _ = _
      rw [hlength]
      rfl

/-- An empty piece in front of others is cut off where it starts. -/
theorem cuts_from_nil_cons (k : Nat) (h : pieces ≠ []) :
    cutsFrom k ([] :: pieces) = k :: cutsFrom (k + keyword.length) pieces := by
  obtain ⟨piece, others, rfl⟩ := List.exists_cons_of_ne_nil h
  rfl

/-- There is one piece more than there are cuts. -/
theorem length_cuts_from (k : Nat) (h : pieces ≠ []) :
    pieces.length = (cutsFrom k pieces).length + 1 := by
  induction pieces generalizing k with
  | nil => exact absurd rfl h
  | cons piece pieces ih =>
      cases pieces with
      | nil => rfl
      | cons next others =>
          rw [List.length_cons, ih (k + piece.length + keyword.length) (by simp)]
          rfl

/-! ## Keywords from left to right -/

/-- A keyword starts where a text is put together exactly when the first part lets one stand there
and the second part starts with it. -/
theorem keyword_from_append_iff :
    KeywordFrom (before ++ cs) before.length ↔ KeywordAt before cs := by
  rw [keyword_from_iff_at, List.take_left, List.drop_left]

/-- A character at which a keyword starts is the first position of one. -/
theorem keywords_behind_cons (h : KeywordAt before (c :: cs)) :
    keywordsBehind before (c :: cs) = before.length :: keywordsBehind (before ++ [c]) cs := by
  have hfirst := keyword_from_append_iff.2 h
  simp [keywordsBehind, List.range'_succ, hfirst]

/-- A character at which no keyword starts is passed over. -/
theorem keywords_behind_cons_of_not (h : ¬ KeywordAt before (c :: cs)) :
    keywordsBehind before (c :: cs) = keywordsBehind (before ++ [c]) cs := by
  have hfirst := mt keyword_from_append_iff.1 h
  simp [keywordsBehind, List.range'_succ, hfirst]

/-- Behind the start of a keyword the next one starts at its end or later. -/
theorem keywords_behind_keyword (hopens : opens before = true) (cs : List Char) :
    keywordsBehind before (keyword ++ cs) =
      before.length :: keywordsBehind (before ++ keyword) cs := by
  have hfirst : KeywordAt before (keyword ++ cs) := ⟨hopens, cs, rfl⟩
  -- No keyword starts at the other three characters, since none of them is its first letter.
  have hothers (lead rest : List Char) (d : Char) (hd : d ≠ 'v') :
      ¬ KeywordAt lead (d :: rest) := by
    rintro ⟨_, hlead⟩
    exact hd (List.cons_prefix_cons.1 hlead).1.symm
  calc keywordsBehind before (keyword ++ cs)
      = before.length :: keywordsBehind (before ++ ['v']) ('a' :: 'r' :: ' ' :: cs) :=
        keywords_behind_cons hfirst
    _ = before.length :: keywordsBehind (before ++ keyword) cs := by
        rw [keywords_behind_cons_of_not (hothers _ _ _ (by decide)),
          keywords_behind_cons_of_not (hothers _ _ _ (by decide)),
          keywords_behind_cons_of_not (hothers _ _ _ (by decide))]
        simp [keyword]

/-! ## Cutting a text -/

/-- Joining the segments of a text with the keyword gives the text back. -/
theorem join_segments_from (o : Bool) (cs : List Char) :
    keyword.intercalate (segmentsFrom o cs) = cs := by
  fun_induction segmentsFrom o cs with
  | case1 => rfl
  | case2 cs ih =>
      rw [join_nil_cons (segments_from_ne_nil true cs), ih]
      rfl
  | case3 o c cs _ ih => rw [join_push_front, ih]

/-- Behind `before`, a text is cut at the keywords that start in it. -/
theorem cuts_segments_from (before cs : List Char) :
    cutsFrom before.length (segmentsFrom (opens before) cs) = keywordsBehind before cs := by
  -- The recursion of `segmentsFrom` remembers of `before` only whether a keyword may follow it.
  generalize ho : opens before = o
  fun_induction segmentsFrom o cs generalizing before with
  | case1 => rfl
  | case2 cs ih =>
      have hrest := ih (before ++ keyword) opens_append_keyword
      rw [List.length_append] at hrest
      rw [cuts_from_nil_cons _ (segments_from_ne_nil true cs), hrest]
      exact (keywords_behind_keyword ho cs).symm
  | case3 o c cs hkeyword ih =>
      have hnot : ¬ KeywordAt before (c :: cs) := by
        rintro ⟨hopens, rest, hrest⟩
        obtain ⟨rfl, rfl⟩ := List.cons.inj hrest
        exact hkeyword rest (ho ▸ hopens) rfl rfl
      have hrest := ih (before ++ [c]) (opens_append_singleton before c)
      rw [List.length_append] at hrest
      rw [cuts_from_push_front, keywords_behind_cons_of_not hnot]
      exact hrest

/-- A text is cut at its keywords. -/
theorem cuts_segments (text : List Char) : cuts (segments text) = keywordPositions text := by
  have hcuts := cuts_segments_from [] text
  rw [keywordsBehind, List.length_nil, ← List.range_eq_range'] at hcuts
  exact hcuts

/-- A text has one segment more than it has keywords. -/
theorem length_segments (text : List Char) :
    (segments text).length = (keywordPositions text).length + 1 := by
  rw [← cuts_segments]
  exact length_cuts_from 0 (segments_from_ne_nil true text)

/-- A text without a keyword is its only segment. -/
theorem segments_of_no_keyword (h : ∀ k, ¬ KeywordFrom text k) : segments text = [text] := by
  have hnone : keywordPositions text = [] := by
    rw [keywordPositions, List.filter_eq_nil_iff]
    intro k _
    simp [h k]
  have hone : (segments text).length = 1 := by rw [length_segments, hnone, List.length_nil]
  obtain ⟨segment, hsegment⟩ := List.length_eq_one_iff.1 hone
  have hjoined := join_segments_from true text
  rw [segments] at hsegment ⊢
  rw [hsegment, List.intercalate_singleton] at hjoined
  rw [hsegment]
  exact congrArg (fun cs => [cs]) hjoined

/-- No keyword starts in a segment that is taken out of its text. -/
theorem no_keyword_in_segment (h : segment ∈ segments text) (k : Nat) :
    ¬ KeywordFrom segment k := by
  intro hkeyword
  obtain ⟨lead, rest, rfl, rfl, hopens⟩ := keyword_from_iff.1 hkeyword
  obtain ⟨before, after, _, hstart, _, hfree⟩ := (mem_segments_iff text _).1 h
  -- At its start the segment stands behind a keyword or at the start of the text, where a keyword
  -- may stand just as it may at the start of a text of its own.
  have hbehind : opens (before ++ lead) = true := by
    rcases List.eq_nil_or_concat lead with rfl | ⟨lead, c, rfl⟩
    · rw [List.append_nil]
      exact hstart.opens
    · rw [List.concat_eq_append, ← List.append_assoc, opens_append_singleton]
      rwa [List.concat_eq_append, opens_append_singleton] at hopens
  refine hfree lead (keyword ++ rest) (List.append_assoc lead keyword rest) (by simp [keyword]) ?_
  exact ⟨hbehind, rest ++ after, (List.append_assoc keyword rest after).symm⟩

/-- The segments of a text, joined with the keyword, are the text; it is cut at every keyword that
starts it or stands behind a space, a tab or a line feed, and nowhere else, so that there is one
segment more than there are such keywords; and a segment is not cut again. -/
theorem segments_exact (text : List Char) :
    keyword.intercalate (segments text) = text ∧
    cuts (segments text) = keywordPositions text ∧
    (segments text).length = (keywordPositions text).length + 1 ∧
    ∀ segment ∈ segments text, segments segment = [segment] := by
  refine ⟨join_segments_from true text, cuts_segments text, length_segments text, ?_⟩
  intro segment hsegment
  exact segments_of_no_keyword (no_keyword_in_segment hsegment)

/-- Keywords next to each other and at the end of the text cut it too; the tab before the last one
is a segment that is not cut again. -/
theorem segments_exact_adjacent :
    keywordPositions "var var \tvar ".toList = [0, 4, 9] ∧
    segments "var var \tvar ".toList = [[], [], ['\t'], []] ∧
    ['\t'] ∈ segments "var var \tvar ".toList ∧ segments ['\t'] = [['\t']] := by
  have htab : ['\t'] ∈ segments "var var \tvar ".toList := by decide
  exact ⟨by decide, by decide, htab, (segments_exact "var var \tvar ".toList).2.2.2 ['\t'] htab⟩

end SceneLint.Script
