import SceneLint.Proofs.Script.Segments
import SceneLint.Script.Rule

/-!
# Untyped declarations by their positions

The rule for static typing cuts a text into segments and looks at each. Here the same is said of the
positions of characters: `SegmentStart text p b` says that `b` is where the last keyword before `p`
ends, or the start of the text, and `untyped_by_position` that a script breaks the rule exactly when
some equals sign has no colon between its segment's start and itself. On the way,
`any_untyped_of_opens` shows that it does not matter from which keyword before an equals sign one
looks: no colon up to it is no colon behind a later keyword either.
-/

namespace SceneLint.Script

/-- `KeywordFrom text k` says that a keyword starts at position `k`: at the start of the text or
behind a space, a tab or a line feed. -/
def KeywordFrom (text : List Char) (k : Nat) : Prop :=
  keyword <+: text.drop k ∧ (k = 0 ∨ ∃ c ∈ [' ', '\t', '\n'], text[k - 1]? = some c)

/-- `SegmentStart text p b` says that `b` is the end of the last keyword that ends at or before
position `p`, or the start of the text when there is none. -/
inductive SegmentStart (text : List Char) (p : Nat) : Nat → Prop where
  | textStart :
      (∀ k, KeywordFrom text k → p < k + keyword.length) → SegmentStart text p 0
  | keywordEnd (k) :
      KeywordFrom text k → k + keyword.length ≤ p →
      (∀ j, KeywordFrom text j → j + keyword.length ≤ p → j ≤ k) →
      SegmentStart text p (k + keyword.length)

variable {text before mid tail rest : List Char} {p b b' k : Nat}

/-! ## An equals sign behind a keyword -/

/-- A keyword in front of an equals sign ends before it. -/
theorem keyword_before_equals (h : keyword ++ rest = mid ++ '=' :: tail) :
    ∃ m, mid = keyword ++ m ∧ rest = m ++ '=' :: tail := by
  rcases List.append_eq_append_iff.1 h with ⟨m, rfl, hrest⟩ | ⟨m, hkeyword, htail⟩
  · exact ⟨m, rfl, hrest⟩
  · -- The equals sign would be a character of the keyword.
    have hmem : '=' ∈ mid ++ m ++ rest := by
      rw [List.append_assoc, ← htail]
      simp
    cases m with
    | nil => exact ⟨[], by simpa using hkeyword.symm, by simpa using htail.symm⟩
    | cons c m =>
        obtain ⟨rfl, _⟩ := List.cons.inj htail
        have hin : '=' ∈ keyword := by
          rw [hkeyword]
          simp
        exact absurd hin (by decide)

/-- An equals sign with no colon between it and the start of a segment makes some segment untyped,
whatever other keywords stand between the two. -/
theorem any_untyped_of_opens (hopens : opens before = true) (hfree : ':' ∉ mid)
    (tail : List Char) : (segmentsFrom true (mid ++ '=' :: tail)).any isUntyped = true := by
  -- A keyword before the equals sign starts a segment of its own, so the induction is on `mid`.
  induction hn : mid.length using Nat.strongRecOn generalizing before mid with
  | ind n ih =>
      have hcases := segments_from_cases before (mid ++ '=' :: tail)
      rw [hopens] at hcases
      rcases hcases with ⟨_, hcut⟩ | ⟨u, rest, heq, _, _, hcut⟩
      · rw [hcut, List.any_cons, (is_untyped_iff _).2 ⟨mid, tail, rfl, hfree⟩, Bool.true_or]
      · rw [hcut, List.any_cons, Bool.or_eq_true]
        rw [List.append_assoc] at heq
        rcases List.append_eq_append_iff.1 heq with ⟨x, rfl, hx⟩ | ⟨x, rfl, hx⟩
        · cases x with
          | nil => simp [keyword] at hx
          | cons c x =>
              obtain ⟨rfl, _⟩ := List.cons.inj hx
              exact .inl ((is_untyped_iff _).2 ⟨mid, x, rfl, hfree⟩)
        · obtain ⟨m, rfl, rfl⟩ := keyword_before_equals hx
          have hlt : m.length < n := by
            have hkeyword : keyword.length = 4 := rfl
            simp only [List.length_append] at hn
            omega
          have hrest : ':' ∉ m := fun hmem => hfree (by simp [hmem])
          have hnext : opens (u ++ keyword) = true := opens_append_keyword
          exact .inr (ih m.length hlt hnext hrest rfl)

/-- Some segment of a text is untyped exactly when an equals sign has no colon between it and an
earlier start of a segment. -/
theorem any_untyped_iff (text : List Char) : (segments text).any isUntyped = true ↔
    ∃ before mid tail, text = before ++ mid ++ '=' :: tail ∧ Starts before ∧ ':' ∉ mid := by
  rw [List.any_eq_true]
  constructor
  · rintro ⟨segment, hsegment, huntyped⟩
    obtain ⟨before, after, rfl, hstart, _, _⟩ := (mem_segments_iff _ _).1 hsegment
    obtain ⟨mid, back, rfl, hfree⟩ := (is_untyped_iff segment).1 huntyped
    exact ⟨before, mid, back ++ after, by simp, hstart, hfree⟩
  · rintro ⟨before, mid, tail, rfl, hstart, hfree⟩
    obtain ⟨segment, hsegment, huntyped⟩ :=
      List.any_eq_true.1 (any_untyped_of_opens hstart.opens hfree tail)
    obtain ⟨lead, after, heq, hlead, hends, hno⟩ :=
      (mem_segments_from_iff hstart _).1 hsegment
    refine ⟨segment, (mem_segments_iff _ _).2 ?_, huntyped⟩
    refine ⟨before ++ lead, after, ?_, hlead, hends, hno⟩
    rw [List.append_assoc, heq]
    simp

/-! ## Positions of keywords -/

/-- The characters behind which a keyword may stand. -/
theorem opens_after_iff (c : Char) : opensAfter c = true ↔ c ∈ [' ', '\t', '\n'] := by
  simp [opensAfter, or_assoc]

/-- A position at which the keyword is read lies in the text. -/
theorem le_length_of_keyword (h : keyword <+: text.drop k) : k ≤ text.length := by
  have hle := h.length_le
  have hkeyword : keyword.length = 4 := rfl
  rw [List.length_drop] at hle
  omega

/-- A keyword starts at the end of the text in front of it. -/
theorem keyword_from_iff : KeywordFrom text k ↔
    ∃ lead rest, text = lead ++ keyword ++ rest ∧ lead.length = k ∧ opens lead = true := by
  constructor
  · rintro ⟨⟨rest, hrest⟩, hbehind⟩
    have hlength : k ≤ text.length := le_length_of_keyword ⟨rest, hrest⟩
    refine ⟨text.take k, rest, ?_, List.length_take_of_le hlength, ?_⟩
    · rw [List.append_assoc, hrest, List.take_append_drop]
    · rcases Nat.eq_zero_or_pos k with rfl | hpos
      · rfl
      · rcases hbehind with rfl | ⟨c, hc, hget⟩
        · rfl
        · have hne : k ≠ 0 := by omega
          rw [opens, List.getLast?_take, if_neg hne, hget]
          exact (opens_after_iff c).2 hc
  · rintro ⟨lead, rest, rfl, rfl, hopens⟩
    refine ⟨⟨rest, ?_⟩, ?_⟩
    · rw [List.append_assoc, List.drop_left]
    · rcases List.eq_nil_or_concat lead with rfl | ⟨lead, c, rfl⟩
      · exact .inl rfl
      · rw [List.concat_eq_append, opens_append_singleton, opens_after_iff] at hopens
        exact .inr ⟨c, hopens, by simp⟩

/-- `StartsAt text b` says that a segment of a text starts at position `b`. -/
def StartsAt (text : List Char) (b : Nat) : Prop :=
  ∃ before rest, text = before ++ rest ∧ before.length = b ∧ Starts before

/-- A segment starts behind a keyword. -/
theorem starts_at_of_keyword_from (h : KeywordFrom text k) :
    StartsAt text (k + keyword.length) := by
  obtain ⟨lead, rest, rfl, rfl, hopens⟩ := keyword_from_iff.1 h
  exact ⟨lead ++ keyword, rest, rfl, List.length_append, .inr ⟨lead, rfl, hopens⟩⟩

/-! ## Where the segment of a position starts -/

/-- The segment of a position starts at or before it. -/
theorem SegmentStart.starts (h : SegmentStart text p b) : b ≤ p ∧ StartsAt text b := by
  cases h with
  | textStart _ => exact ⟨Nat.zero_le p, [], text, rfl, rfl, .inl rfl⟩
  | keywordEnd k hkeyword hle _ => exact ⟨hle, starts_at_of_keyword_from hkeyword⟩

/-- No segment starts between the start of a position's segment and the position. -/
theorem SegmentStart.last (h : SegmentStart text p b) (hstart : StartsAt text b') (hle : b' ≤ p) :
    b' ≤ b := by
  obtain ⟨before, rest, rfl, rfl, hstart⟩ := hstart
  rcases hstart with rfl | ⟨lead, rfl, hopens⟩
  · exact Nat.zero_le b
  · have hkeyword : KeywordFrom (lead ++ keyword ++ rest) lead.length :=
      keyword_from_iff.2 ⟨lead, rest, rfl, rfl, hopens⟩
    rw [List.length_append] at hle ⊢
    cases h with
    | textStart hnone =>
        have hlt := hnone lead.length hkeyword
        omega
    | keywordEnd k _ _ hlast =>
        have hk := hlast lead.length hkeyword hle
        omega

/-- Every position has a segment that starts before it. -/
theorem segment_start_exists (text : List Char) (p : Nat) : ∃ b, SegmentStart text p b := by
  -- One position further, the start is the same unless a keyword ends just there.
  induction p with
  | zero => exact ⟨0, .textStart fun k _ => by simp [keyword]⟩
  | succ p ih =>
      by_cases hend : ∃ k, KeywordFrom text k ∧ k + keyword.length = p + 1
      · obtain ⟨k, hkeyword, hk⟩ := hend
        exact ⟨_, .keywordEnd k hkeyword (by omega) fun j _ hj => by omega⟩
      · have hback (j : Nat) (hj : KeywordFrom text j) (hle : j + keyword.length ≤ p + 1) :
            j + keyword.length ≤ p := by
          have hne : j + keyword.length ≠ p + 1 := fun heq => hend ⟨j, hj, heq⟩
          omega
        obtain ⟨b, hb⟩ := ih
        cases hb with
        | textStart hnone =>
            refine ⟨0, .textStart fun k hkeyword => ?_⟩
            have hlt := hnone k hkeyword
            have hne : k + keyword.length ≠ p + 1 := fun heq => hend ⟨k, hkeyword, heq⟩
            omega
        | keywordEnd k hkeyword hle hlast =>
            have hnext : k + keyword.length ≤ p + 1 := by omega
            refine ⟨_, .keywordEnd k hkeyword hnext fun j hj hle' => ?_⟩
            exact hlast j hj (hback j hj hle')

/-- The segment of a position starts at one place. -/
theorem segment_start_unique (h : SegmentStart text p b) (h' : SegmentStart text p b') :
    b = b' := by
  obtain ⟨hle, hstart⟩ := h.starts
  obtain ⟨hle', hstart'⟩ := h'.starts
  exact Nat.le_antisymm (h'.last hstart hle) (h.last hstart' hle')

/-! ## The rule by positions -/

/-- A stretch of a text holds no colon when none stands at its positions. -/
theorem colon_free_iff (before mid rest : List Char) : ':' ∉ mid ↔
    ∀ i, before.length ≤ i → i < (before ++ mid).length →
      (before ++ mid ++ rest)[i]? ≠ some ':' := by
  constructor
  · intro hfree i hle hlt hget
    rw [List.getElem?_append_left hlt, List.getElem?_append_right hle] at hget
    exact hfree (List.mem_of_getElem? hget)
  · intro hnone hmem
    obtain ⟨j, hj, hget⟩ := List.getElem_of_mem hmem
    refine hnone (before.length + j) (by omega) (by rw [List.length_append]; omega) ?_
    rw [List.append_assoc, List.getElem?_append_right (by omega), Nat.add_sub_cancel_left,
      List.getElem?_append_left hj, List.getElem?_eq_getElem hj, hget]

/-- A position of a text cuts it into the text before it, its character and a rest. -/
theorem exists_split {c : Char} (h : text[p]? = some c) :
    ∃ front back, text = front ++ c :: back ∧ front.length = p := by
  obtain ⟨hlt, rfl⟩ := List.getElem?_eq_some_iff.1 h
  refine ⟨text.take p, text.drop (p + 1), ?_, List.length_take_of_le (Nat.le_of_lt hlt)⟩
  rw [List.getElem_cons_drop, List.take_append_drop]

/-- An equals sign without a colon between the start of a segment and itself makes some segment
untyped. -/
theorem any_untyped_of_position (hstart : StartsAt text b) (hle : b ≤ p)
    (hequals : text[p]? = some '=') (hfree : ∀ i, b ≤ i → i < p → text[i]? ≠ some ':') :
    (segments text).any isUntyped = true := by
  obtain ⟨before, rest, htext, rfl, hstart⟩ := hstart
  obtain ⟨front, tail, rfl, rfl⟩ := exists_split hequals
  obtain ⟨mid, rfl⟩ : before <+: front :=
    List.prefix_of_prefix_length_le ⟨rest, htext.symm⟩ (List.prefix_append front _) hle
  exact (any_untyped_iff _).2 ⟨before, mid, tail, rfl, hstart, (colon_free_iff _ _ _).2 hfree⟩

/-- In a text with an untyped segment, some equals sign has no colon between the start of its
segment and itself. -/
theorem exists_position_of_any_untyped (h : (segments text).any isUntyped = true) :
    ∃ p b, text[p]? = some '=' ∧ SegmentStart text p b ∧
      ∀ i, b ≤ i → i < p → text[i]? ≠ some ':' := by
  obtain ⟨before, mid, tail, rfl, hstart, hfree⟩ := (any_untyped_iff text).1 h
  -- The segment of the equals sign starts at or behind `before`, so fewer colons are excluded.
  obtain ⟨b, hb⟩ := segment_start_exists (before ++ mid ++ '=' :: tail) (before ++ mid).length
  have hlast : before.length ≤ b :=
    hb.last ⟨before, mid ++ '=' :: tail, by simp, rfl, hstart⟩ (by simp)
  refine ⟨(before ++ mid).length, b, by simp, hb, fun i hi hlt => ?_⟩
  exact (colon_free_iff before mid _).1 hfree i (Nat.le_trans hlast hi) hlt

/-- A script breaks the rule for static typing exactly when it has an equals sign with no colon
between the start of its segment and itself, and every position has one such start. An equals sign
with no colon between any keyword and itself is enough, wherever the keyword stands and whatever
precedes it. -/
theorem untyped_by_position (s : Script) :
    (ScriptRule.staticTyping.breach? s = some .untyped ↔
      ∃ p b, s.contents.toList[p]? = some '=' ∧ SegmentStart s.contents.toList p b ∧
        ∀ i, b ≤ i → i < p → s.contents.toList[i]? ≠ some ':') ∧
    (∀ p, ∃ b, SegmentStart s.contents.toList p b ∧
      ∀ b', SegmentStart s.contents.toList p b' → b' = b) ∧
    ∀ k p, KeywordFrom s.contents.toList k → k + keyword.length ≤ p →
      s.contents.toList[p]? = some '=' →
      (∀ i, k + keyword.length ≤ i → i < p → s.contents.toList[i]? ≠ some ':') →
      ScriptRule.staticTyping.breach? s = some .untyped := by
  have hrule : ScriptRule.staticTyping.breach? s = some .untyped ↔
      (segments s.contents.toList).any isUntyped = true := by
    simp [ScriptRule.breach?]
  rw [hrule]
  refine ⟨⟨exists_position_of_any_untyped, ?_⟩, ?_, ?_⟩
  · rintro ⟨p, b, hequals, hb, hfree⟩
    obtain ⟨hle, hstart⟩ := hb.starts
    exact any_untyped_of_position hstart hle hequals hfree
  · intro p
    obtain ⟨b, hb⟩ := segment_start_exists s.contents.toList p
    exact ⟨b, hb, fun b' hb' => segment_start_unique hb' hb⟩
  · intro k p hkeyword hle hequals hfree
    exact any_untyped_of_position (starts_at_of_keyword_from hkeyword) hle hequals hfree

end SceneLint.Script
