import SceneLint.Text.Blank

/-!
# What trimming leaves

A trimmed text is what is left between the blanks at its ends. Of a text that ends with no blank,
trimming drops a gap at the front and nothing else (`exists_gap_trim`, `trim_append`), and there is
one such gap only (`gap_append_inj`).
-/

namespace SceneLint.Text

/-- `Blanks cs` says that a text holds nothing but blanks. -/
def Blanks (cs : List Char) : Prop :=
  ∀ c ∈ cs, isBlank c = true

/-- `StartsBare cs` says that a text starts with no blank. It may be empty. -/
def StartsBare (cs : List Char) : Prop :=
  ∀ c ∈ cs.head?, isBlank c = false

/-- `EndsBare cs` says that a text ends with no blank. It may be empty. -/
def EndsBare (cs : List Char) : Prop :=
  ∀ c ∈ cs.getLast?, isBlank c = false

variable {gap gap' lead cs cs' : List Char}

/-- What trimming the front leaves starts with no blank. -/
theorem starts_bare_trim_start (cs : List Char) : StartsBare (trimStart cs) := by
  intro c hc
  obtain ⟨rest, hrest⟩ := List.head?_eq_some_iff.1 hc
  exact is_blank_head_trim_start hrest

/-- A text that starts with no blank loses nothing at the front. -/
theorem trim_start_of_starts_bare (h : StartsBare cs) : trimStart cs = cs := by
  cases cs with
  | nil => rfl
  | cons c cs => exact trim_start_cons_of_not_blank cs (h c rfl)

/-- What follows a word that starts with no blank does not matter. -/
theorem StartsBare.append (h : StartsBare cs) (hne : cs ≠ []) (rest : List Char) :
    StartsBare (cs ++ rest) := by
  obtain ⟨c, cs, rfl⟩ := List.exists_cons_of_ne_nil hne
  exact h

/-- Trimming the front drops the blanks before a text that starts with none. -/
theorem trim_start_append (hgap : Blanks gap) (hcs : StartsBare cs) :
    trimStart (gap ++ cs) = cs := by
  rw [trimStart, List.dropWhile_append_of_pos hgap]
  exact trim_start_of_starts_bare hcs

/-- Trimming the front drops nothing but blanks. -/
theorem exists_gap (cs : List Char) : ∃ gap, Blanks gap ∧ cs = gap ++ trimStart cs :=
  ⟨cs.takeWhile isBlank, List.all_eq_true.1 List.all_takeWhile,
    List.takeWhile_append_dropWhile.symm⟩

/-- A text has one gap only before what starts with no blank. -/
theorem gap_append_inj (hgap : Blanks gap) (hcs : StartsBare cs) (hgap' : Blanks gap')
    (hcs' : StartsBare cs') (h : gap ++ cs = gap' ++ cs') : gap = gap' ∧ cs = cs' := by
  have hrest : cs = cs' := by
    rw [← trim_start_append hgap hcs, h, trim_start_append hgap' hcs']
  subst hrest
  exact ⟨List.append_cancel_right h, rfl⟩

/-- What trimming the back leaves ends with no blank. -/
theorem ends_bare_trim_end (cs : List Char) : EndsBare (trimEnd cs) := by
  intro c hc
  rw [trimEnd, List.getLast?_reverse] at hc
  exact starts_bare_trim_start cs.reverse c hc

/-- A text that ends with no blank loses nothing at the back. -/
theorem trim_end_of_ends_bare (h : EndsBare cs) : trimEnd cs = cs := by
  have hreverse : StartsBare cs.reverse := by
    intro c hc
    rw [List.head?_reverse] at hc
    exact h c hc
  rw [trimEnd]
  exact (congrArg List.reverse (trim_start_of_starts_bare hreverse)).trans cs.reverse_reverse

/-- A trimmed text ends with no blank. -/
theorem ends_bare_trim (cs : List Char) : EndsBare (trim cs) :=
  ends_bare_trim_end (trimStart cs)

/-- The end of a text that ends with no blank ends with none. -/
theorem EndsBare.of_append (h : EndsBare (lead ++ cs)) : EndsBare cs := by
  intro c hc
  refine h c ?_
  rw [List.getLast?_append, Option.mem_def.1 hc]
  rfl

/-- What comes before a word that ends with no blank does not matter. -/
theorem ends_bare_append (hne : cs ≠ []) (h : EndsBare cs) : EndsBare (lead ++ cs) := by
  intro c hc
  obtain ⟨front, last, rfl⟩ := (List.eq_nil_or_concat cs).resolve_left hne
  exact h c (by simpa using hc)

/-- Only the empty text holds nothing but blanks and ends with none. -/
theorem Blanks.eq_nil (h : Blanks cs) (hend : EndsBare cs) : cs = [] := by
  rcases List.eq_nil_or_concat cs with rfl | ⟨front, c, rfl⟩
  · rfl
  · have hblank := h c (by simp)
    rw [hend c (by simp)] at hblank
    cases hblank

/-- Where a text ends with no blank, trimming drops only the gap at its front. -/
theorem exists_gap_trim (h : EndsBare cs) :
    ∃ gap, Blanks gap ∧ StartsBare (trim cs) ∧ cs = gap ++ trim cs := by
  obtain ⟨gap, hgap, heq⟩ := exists_gap cs
  have htrim : trim cs = trimStart cs := by
    rw [heq] at h
    exact trim_end_of_ends_bare h.of_append
  rw [htrim]
  exact ⟨gap, hgap, starts_bare_trim_start cs, heq⟩

/-- Trimming drops the gap before a text that starts and ends with no blank. -/
theorem trim_append (hgap : Blanks gap) (hstart : StartsBare cs) (hend : EndsBare cs) :
    trim (gap ++ cs) = cs := by
  rw [trim, trim_start_append hgap hstart, trim_end_of_ends_bare hend]

end SceneLint.Text
