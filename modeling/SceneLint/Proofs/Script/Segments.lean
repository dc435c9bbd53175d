import SceneLint.Script.Declaration

/-!
# Segments between declarations

`IsSegment text segment` says, without cutting anything, that `segment` is a stretch of `text` which
runs from the start of the text or the end of a keyword to the next keyword or the end of the text.
`mem_segments_iff` says that `segments` gives these stretches and no others. The proof goes from
keyword to keyword: `segments_from_cases` finds the first one, and `keyword_overlap` and
`starts_append` exclude that two keywords share a character.
-/

namespace SceneLint.Script

/-- `opens before` says that a keyword may stand behind the text `before`. -/
def opens (before : List Char) : Bool :=
  before.getLast?.all opensAfter

/-- `KeywordAt before after` says that a keyword stands where `before` ends and `after` begins. -/
def KeywordAt (before after : List Char) : Prop :=
  opens before = true ∧ keyword <+: after

/-- `Starts before` says that a segment starts behind `before`: at the start of the text, or at the
end of a keyword. -/
def Starts (before : List Char) : Prop :=
  before = [] ∨ ∃ lead, before = lead ++ keyword ∧ opens lead = true

/-- `Ends before after` says that a segment ends between `before` and `after`: at the end of the
text, or at a keyword. -/
def Ends (before after : List Char) : Prop :=
  after = [] ∨ KeywordAt before after

/-- `Free before segment after` says that no keyword starts inside `segment`, which stands between
`before` and `after`. -/
def Free (before segment after : List Char) : Prop :=
  ∀ u v, segment = u ++ v → v ≠ [] → ¬ KeywordAt (before ++ u) (v ++ after)

/-- `IsSegment text segment` says that `segment` is the text between two neighbouring keywords, or
between a keyword and an end of the text. -/
def IsSegment (text segment : List Char) : Prop :=
  ∃ before after, text = before ++ segment ++ after ∧ Starts before ∧
    Ends (before ++ segment) after ∧ Free before segment after

/-- `SegmentBehind before text segment` says that `segment` is such a stretch of a text that stands
behind `before`. -/
def SegmentBehind (before text segment : List Char) : Prop :=
  ∃ mid after, text = mid ++ segment ++ after ∧ Starts (before ++ mid) ∧
    Ends (before ++ mid ++ segment) after ∧ Free (before ++ mid) segment after

variable {before segment cs rest u v : List Char} {c : Char}

/-- Whether a keyword may follow is a matter of the last character. -/
theorem opens_append_singleton (before : List Char) (c : Char) :
    opens (before ++ [c]) = opensAfter c := by
  simp [opens]

/-- A keyword may stand behind a keyword. -/
theorem opens_append_keyword : opens (before ++ keyword) = true := by
  simp [opens, keyword, opensAfter]

/-- A keyword may stand where a segment starts. -/
theorem Starts.opens (h : Starts before) : opens before = true := by
  rcases h with rfl | ⟨lead, rfl, _⟩
  · rfl
  · exact opens_append_keyword

/-! ## Keywords share no character -/

/-- A keyword that starts behind the start of another starts behind its end. -/
theorem keyword_overlap {x y : List Char} (h : x ++ keyword ++ y = keyword ++ rest)
    (hx : x ≠ []) : ∃ x', x = keyword ++ x' := by
  match x, hx with
  | [a], _ => simp [keyword] at h
  | [a, b], _ => simp [keyword] at h
  | [a, b, c], _ => simp [keyword] at h
  | a :: b :: c :: d :: x', _ =>
      simp only [keyword, List.cons_append, List.nil_append, List.cons.injEq] at h
      obtain ⟨rfl, rfl, rfl, rfl, _⟩ := h
      exact ⟨x', rfl⟩

/-- What lies between two starts of segments ends with a keyword of its own. -/
theorem starts_append {mid : List Char} (h : Starts before) (hmid : Starts (before ++ mid))
    (hne : mid ≠ []) : ∃ m, mid = m ++ keyword ∧ opens (before ++ m) = true := by
  rcases hmid with hnil | ⟨lead, heq, hopens⟩
  · exact absurd (List.append_eq_nil_iff.1 hnil).2 hne
  rcases List.append_eq_append_iff.1 heq with ⟨m, rfl, rfl⟩ | ⟨k, rfl, hk⟩
  · exact ⟨m, rfl, hopens⟩
  · -- The keyword begins inside `before`. That ends with a space, and a keyword has its only space
    -- at its end, so all of it lies inside `before` and nothing is left for `mid`.
    rcases List.eq_nil_or_concat k with rfl | ⟨k, c, rfl⟩
    · exact ⟨[], by simpa using hk.symm, by simpa using hopens⟩
    · have hc : c = ' ' := by
        rcases h with hnil | ⟨lead', heq', _⟩
        · simp at hnil
        · have hlast := congrArg List.getLast? heq'
          simpa [keyword] using hlast
      subst hc
      match k, mid, hne, hk with
      | [], _, _, hk => simp [keyword] at hk
      | [_], _, _, hk => simp [keyword] at hk
      | [_, _], _, _, hk => simp [keyword] at hk
      | [_, _, _], _ :: _, _, hk => simp [keyword] at hk
      | _ :: _ :: _ :: _ :: _, _, _, hk => simp [keyword] at hk

/-! ## Cutting at the first keyword -/

/-- There is always at least one segment. -/
theorem segments_from_ne_nil (o : Bool) (cs : List Char) : segmentsFrom o cs ≠ [] := by
  fun_induction segmentsFrom o cs with
  | case1 => simp
  | case2 cs _ => simp
  | case3 o c cs _ _ => cases segmentsFrom (opensAfter c) cs <;> simp [pushFront]

/-- A character at which no keyword starts belongs to the first segment. -/
theorem segments_from_cons {o : Bool} (h : ¬ (o = true ∧ keyword <+: c :: cs)) :
    segmentsFrom o (c :: cs) = pushFront c (segmentsFrom (opensAfter c) cs) := by
  rw [segmentsFrom]
  rintro rest rfl rfl rfl
  exact h ⟨rfl, rest, rfl⟩

/-- Where no keyword starts at the front, a keyword starts behind the first character. -/
theorem KeywordAt.tail (hfront : ¬ KeywordAt before (c :: cs)) (heq : c :: cs = u ++ v)
    (h : KeywordAt (before ++ u) v) :
    ∃ u', u = c :: u' ∧ cs = u' ++ v ∧ KeywordAt (before ++ [c] ++ u') v := by
  cases u with
  | nil =>
      rw [List.nil_append] at heq
      subst heq
      rw [List.append_nil] at h
      exact absurd h hfront
  | cons d u' =>
      obtain ⟨rfl, rfl⟩ := List.cons.inj heq
      exact ⟨u', rfl, rfl, by simpa using h⟩

/-- A text either holds no keyword and is one segment, or is cut at its first keyword. -/
theorem segments_from_cases (before cs : List Char) :
    ((∀ u v, cs = u ++ v → ¬ KeywordAt (before ++ u) v) ∧
      segmentsFrom (opens before) cs = [cs]) ∨
    ∃ u rest, cs = u ++ keyword ++ rest ∧ opens (before ++ u) = true ∧
      Free before u (keyword ++ rest) ∧
      segmentsFrom (opens before) cs = u :: segmentsFrom true rest := by
  -- Whether a keyword may start at a character depends on the one before it, so `before` grows.
  induction cs generalizing before with
  | nil =>
      left
      refine ⟨?_, by simp [segmentsFrom]⟩
      intro u v huv hkeyword
      obtain ⟨rfl, rfl⟩ := List.append_eq_nil_iff.1 huv.symm
      simpa [keyword] using hkeyword.2
  | cons c cs ih =>
      by_cases hfront : KeywordAt before (c :: cs)
      · obtain ⟨hopens, rest, hrest⟩ := hfront
        right
        refine ⟨[], rest, by simpa using hrest.symm, by simpa using hopens, ?_, ?_⟩
        · intro u' v' heq hne
          exact absurd (List.append_eq_nil_iff.1 heq.symm).2 hne
        · rw [← hrest, hopens]
          rfl
      · rw [segments_from_cons hfront, ← opens_append_singleton before c]
        rcases ih (before ++ [c]) with ⟨hnone, hcut⟩ | ⟨u, rest, rfl, hopens, hfirst, hcut⟩
        · left
          refine ⟨?_, by rw [hcut]; rfl⟩
          intro u' v' heq hat
          obtain ⟨u'', rfl, rfl, hat⟩ := KeywordAt.tail hfront heq hat
          exact hnone u'' v' rfl hat
        · right
          refine ⟨c :: u, rest, rfl, by simpa using hopens, ?_, by rw [hcut]; rfl⟩
          intro u' v' heq hne hat
          have hwhole : c :: (u ++ keyword ++ rest) = u' ++ (v' ++ (keyword ++ rest)) := by
            rw [← List.append_assoc u', ← heq]
            simp
          obtain ⟨u'', rfl, _, hat⟩ := KeywordAt.tail hfront hwhole hat
          exact hfirst u'' v' (List.cons.inj heq).2 hne hat

/-! ## Segments are what lies between keywords -/

/-- Between a start and the first keyword behind it lies one segment. -/
theorem eq_of_first_keyword {after : List Char} (heq : segment ++ after = u ++ (keyword ++ rest))
    (hends : Ends (before ++ segment) after) (hfree : Free before segment after)
    (hopens : opens (before ++ u) = true) (hfirst : Free before u (keyword ++ rest)) :
    segment = u := by
  rcases List.append_eq_append_iff.1 heq with ⟨v, rfl, hv⟩ | ⟨v, rfl, hv⟩
  · -- The segment ends no later than `u`; it cannot end earlier, since no keyword starts there.
    by_cases hne : v = []
    · simp [hne]
    · rcases hends with hnil | hat
      · simp [hnil, hne] at hv
      · rw [hv] at hat
        exact absurd hat (hfirst segment v rfl hne)
  · by_cases hne : v = []
    · simp [hne]
    · exact absurd ⟨hopens, rest, hv⟩ (hfree u v rfl hne)

/-- A keyword lies behind the first one, or is the first one. -/
theorem keyword_of_first {m tail : List Char}
    (heq : u ++ (keyword ++ rest) = m ++ (keyword ++ tail)) (hm : opens (before ++ m) = true)
    (hfirst : Free before u (keyword ++ rest)) :
    ∃ mid, m ++ keyword = u ++ keyword ++ mid ∧ rest = mid ++ tail := by
  rcases List.append_eq_append_iff.1 heq with ⟨x, rfl, hx⟩ | ⟨x, rfl, hx⟩
  · by_cases hne : x = []
    · subst hne
      exact ⟨[], by simp, by simpa using hx⟩
    · obtain ⟨x', rfl⟩ := keyword_overlap (by simpa using hx.symm) hne
      exact ⟨x' ++ keyword, by simp, by simpa using hx⟩
  · by_cases hne : x = []
    · subst hne
      exact ⟨[], by simp, by simpa using hx.symm⟩
    · exact absurd ⟨hm, tail, hx⟩ (hfirst m x rfl hne)

/-- A text without a keyword is its only segment. -/
theorem segment_behind_of_no_keyword (hstart : Starts before)
    (hnone : ∀ u v, cs = u ++ v → ¬ KeywordAt (before ++ u) v) :
    SegmentBehind before cs segment ↔ segment = cs := by
  constructor
  · intro hsegment
    obtain ⟨mid, after, rfl, hmid, hends, _⟩ := hsegment
    have hmidnil : mid = [] := by
      rcases Decidable.em (mid = []) with hnil | hne
      · exact hnil
      · obtain ⟨m, rfl, hopens⟩ := starts_append hstart hmid hne
        exact absurd ⟨hopens, _, rfl⟩ (hnone m (keyword ++ (segment ++ after)) (by simp))
    have hafternil : after = [] := by
      rcases hends with hnil | hat
      · exact hnil
      · exact absurd (by simpa using hat) (hnone (mid ++ segment) after rfl)
    simp [hmidnil, hafternil]
  · intro heq
    subst heq
    refine ⟨[], [], by simp, by simpa using hstart, .inl rfl, ?_⟩
    intro u v heq _ hat
    exact hnone u v heq (by simpa using hat)

/-- A text with a keyword has the segment before the first one, and the segments behind it. -/
theorem segment_behind_of_first_keyword (hstart : Starts before)
    (hopens : opens (before ++ u) = true) (hfirst : Free before u (keyword ++ rest)) :
    SegmentBehind before (u ++ keyword ++ rest) segment ↔
      segment = u ∨ SegmentBehind (before ++ (u ++ keyword)) rest segment := by
  constructor
  · intro hsegment
    obtain ⟨mid, after, heq, hmid, hends, hfree⟩ := hsegment
    by_cases hne : mid = []
    · subst hne
      left
      refine eq_of_first_keyword ?_ (by simpa using hends) (by simpa using hfree) hopens hfirst
      simpa using heq.symm
    · right
      obtain ⟨m, rfl, hm⟩ := starts_append hstart hmid hne
      have htail : u ++ (keyword ++ rest) = m ++ (keyword ++ (segment ++ after)) := by
        simpa using heq
      obtain ⟨mid, hkey, rfl⟩ := keyword_of_first htail hm hfirst
      rw [hkey] at hmid hends hfree
      refine ⟨mid, after, by simp, ?_, ?_, ?_⟩
      · simpa using hmid
      · simpa using hends
      · simpa using hfree
  · intro hsegment
    rcases hsegment with rfl | ⟨mid, after, rfl, hmid, hends, hfree⟩
    · refine ⟨[], keyword ++ rest, by simp, by simpa using hstart, .inr ⟨?_, rest, rfl⟩, ?_⟩
      · simpa using hopens
      · simpa using hfirst
    · refine ⟨u ++ keyword ++ mid, after, by simp, ?_, ?_, ?_⟩
      · simpa using hmid
      · simpa using hends
      · simpa using hfree

/-- Behind the start of a segment, `segmentsFrom` gives the segments of the rest of the text. -/
theorem mem_segments_from_iff (hstart : Starts before) (cs : List Char) :
    segment ∈ segmentsFrom true cs ↔ SegmentBehind before cs segment := by
  -- The induction goes from one keyword to the next: what follows the first one is a shorter text
  -- behind a start of its own.
  induction hn : cs.length using Nat.strongRecOn generalizing before cs with
  | ind n ih =>
      have hcases := segments_from_cases before cs
      rw [hstart.opens] at hcases
      rcases hcases with ⟨hnone, hcut⟩ | ⟨u, rest, rfl, hopens, hfirst, hcut⟩
      · rw [hcut, List.mem_singleton, segment_behind_of_no_keyword hstart hnone]
      · have hnext : Starts (before ++ (u ++ keyword)) :=
          .inr ⟨before ++ u, by simp, hopens⟩
        have hlt : rest.length < n := by
          rw [← hn, List.length_append, List.length_append]
          have hkeyword : keyword.length = 4 := rfl
          omega
        rw [hcut, List.mem_cons, ih rest.length hlt hnext rest rfl,
          segment_behind_of_first_keyword hstart hopens hfirst]

/-- The segments of a text are the stretches between its keywords. -/
theorem mem_segments_iff (text segment : List Char) :
    segment ∈ segments text ↔ IsSegment text segment := by
  have hstart : Starts [] := .inl rfl
  rw [segments, mem_segments_from_iff hstart, SegmentBehind]
  simp only [List.nil_append]
  rfl

/-- A segment is untyped when it has an equals sign with no colon before it. -/
theorem is_untyped_iff (segment : List Char) : isUntyped segment = true ↔
    ∃ front back, segment = front ++ '=' :: back ∧ ':' ∉ front := by
  induction segment with
  | nil => simp [isUntyped]
  | cons c cs ih =>
      rw [isUntyped]
      split
      · next hc =>
          subst hc
          constructor
          · simp
          · intro huntyped
            obtain ⟨front, back, heq, hfree⟩ := huntyped
            cases front with
            | nil => simp at heq
            | cons d front =>
                obtain ⟨rfl, _⟩ := List.cons.inj heq
                simp at hfree
      · next hc =>
          split
          · next heq =>
              subst heq
              exact ⟨fun _ => ⟨[], cs, rfl, by simp⟩, fun _ => rfl⟩
          · next hne =>
              rw [ih]
              constructor
              · intro huntyped
                obtain ⟨front, back, rfl, hfree⟩ := huntyped
                exact ⟨c :: front, back, rfl, by simp [hfree, Ne.symm hc]⟩
              · intro huntyped
                obtain ⟨front, back, heq, hfree⟩ := huntyped
                cases front with
                | nil => exact absurd (List.cons.inj heq).1 hne
                | cons d front =>
                    obtain ⟨rfl, rfl⟩ := List.cons.inj heq
                    exact ⟨front, back, rfl, fun hmem => hfree (List.mem_cons_of_mem _ hmem)⟩

end SceneLint.Script
