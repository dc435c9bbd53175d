import SceneLint.Text.Search
import Mathlib.Data.List.Infix

/-!
# What searching and splitting find

`cut?_eq_some_iff` says that a cut is made at the first occurrence of the mark, and
`cut?_eq_none_iff` that there is none only where the mark does not occur. Joined texts are equal
only when their pieces are, as long as no piece holds the separator (`intercalate_injective`), and
texts are equal when the pieces of their splits are (`split_text_injective`).
-/

namespace SceneLint.Text

variable {lead mark cs before rest : List Char}

/-- Nothing follows `lead` when the text does not begin with it. -/
theorem prefix_rest_eq_none_iff : lead.isPrefixOf? cs = none ↔ ¬ lead <+: cs := by
  rw [← List.isPrefixOf_iff_prefix, ← List.isSome_isPrefixOf?_eq_isPrefixOf, Bool.not_eq_true,
    Option.isSome_eq_false_iff, Option.isNone_iff_eq_none]

/-- A text does not start with `lead` when `lead` is no prefix of it. -/
theorem is_prefix_eq_false_iff : lead.isPrefixOf cs = false ↔ ¬ lead <+: cs := by
  rw [← List.isPrefixOf_iff_prefix, Bool.not_eq_true]

/-- A cut loses nothing. -/
theorem eq_of_cut? (h : cut? mark cs = some (before, rest)) :
    cs = before ++ mark ++ rest := by
  induction cs generalizing before with
  | nil =>
      unfold cut? at h
      split at h
      · next r hr =>
          cases h
          simpa using (List.isPrefixOf?_eq_some_iff_append_eq.1 hr).symm
      · cases h
  | cons c cs ih =>
      unfold cut? at h
      split at h
      · next r hr =>
          cases h
          simpa using (List.isPrefixOf?_eq_some_iff_append_eq.1 hr).symm
      · split at h
        · next before' rest' hcut =>
            cases h
            simp [ih hcut]
        · cases h

/-- A text without a cut does not hold the mark. -/
theorem cut?_eq_none_iff : cut? mark cs = none ↔ ∀ before rest, cs ≠ before ++ mark ++ rest := by
  constructor
  · intro h before rest heq
    subst heq
    induction before with
    | nil =>
        have hafter : mark.isPrefixOf? (mark ++ rest) = some rest :=
          List.isPrefixOf?_eq_some_iff_append_eq.2 rfl
        cases hcs : mark ++ rest with
        | nil =>
            rw [hcs] at hafter
            simp [hcs, cut?, hafter] at h
        | cons c cs =>
            rw [hcs] at hafter
            simp [hcs, cut?, hafter] at h
    | cons c before ih =>
        apply ih
        rw [List.cons_append, List.cons_append, cut?] at h
        split at h
        · cases h
        · split at h
          · cases h
          · assumption
  · intro h
    cases hcut : cut? mark cs with
    | none => rfl
    | some pieces => exact absurd (eq_of_cut? hcut) (h pieces.1 pieces.2)

/-- No occurrence of the mark lies before a cut. -/
theorem length_le_of_cut? (h : cut? mark cs = some (before, rest)) {b r : List Char}
    (heq : cs = b ++ mark ++ r) : before.length ≤ b.length := by
  induction cs generalizing before b with
  | nil =>
      have hcut := eq_of_cut? h
      have hlen := congrArg List.length hcut
      simp only [List.length_append, List.length_nil] at hlen
      omega
  | cons c cs ih =>
      rw [cut?] at h
      split at h
      · cases h
        simp
      · next hafter =>
          split at h
          · next before' rest' hcut =>
              cases h
              cases b with
              | nil => exact absurd ⟨r, heq.symm⟩ (prefix_rest_eq_none_iff.1 hafter)
              | cons d b =>
                  have htail : cs = b ++ mark ++ r := (List.cons.inj heq).2
                  simpa using ih hcut htail
          · cases h

/-- A cut is made at the first occurrence of the mark. -/
theorem cut?_eq_some_iff : cut? mark cs = some (before, rest) ↔
    cs = before ++ mark ++ rest ∧ ∀ b r, cs = b ++ mark ++ r → before.length ≤ b.length := by
  constructor
  · intro h
    exact ⟨eq_of_cut? h, fun b r heq => length_le_of_cut? h heq⟩
  · intro hcut
    obtain ⟨heq, hfirst⟩ := hcut
    cases hcut : cut? mark cs with
    | none => exact absurd heq (cut?_eq_none_iff.1 hcut before rest)
    | some pieces =>
        obtain ⟨b, r⟩ := pieces
        have hbr := eq_of_cut? hcut
        have hlen : b.length = before.length :=
          Nat.le_antisymm (length_le_of_cut? hcut heq) (hfirst b r hbr)
        have hsame : b ++ (mark ++ r) = before ++ (mark ++ rest) := by
          rw [← List.append_assoc, ← List.append_assoc, ← hbr, heq]
        obtain ⟨rfl, htail⟩ := List.append_inj hsame hlen
        rw [List.append_cancel_left htail]

/-- A cut at a character leaves none of it in front. -/
theorem cut?_char_eq_some_iff {c : Char} :
    cut? [c] cs = some (before, rest) ↔ cs = before ++ c :: rest ∧ c ∉ before := by
  rw [cut?_eq_some_iff]
  constructor
  · intro hcut
    obtain ⟨heq, hfirst⟩ := hcut
    refine ⟨by simpa using heq, fun hmem => ?_⟩
    obtain ⟨b, r, rfl⟩ := List.append_of_mem hmem
    have hle := hfirst b (r ++ c :: rest) (by simp [heq])
    simp only [List.length_append, List.length_cons] at hle
    omega
  · intro hcut
    obtain ⟨heq, hnot⟩ := hcut
    refine ⟨by simpa using heq, fun b r hbr => ?_⟩
    -- A shorter `b` would be followed by `c` inside `before`.
    rcases Nat.lt_or_ge b.length before.length with hlt | hge
    · have hc : (before ++ c :: rest)[b.length]? = some c := by simp [← heq, hbr]
      rw [List.getElem?_append_left hlt] at hc
      exact absurd (List.mem_of_getElem? hc) hnot
    · exact hge

/-- There is no cut at a character that does not occur. -/
theorem cut?_char_eq_none_iff {c : Char} : cut? [c] cs = none ↔ c ∉ cs := by
  rw [cut?_eq_none_iff]
  constructor
  · intro h hmem
    obtain ⟨before, rest, heq⟩ := List.append_of_mem hmem
    exact h before rest (by simpa using heq)
  · rintro h before rest rfl
    simp at h

variable {sep : Char}

/-- The text in front of a separator is the first piece. -/
theorem split_on_append_cons (h : sep ∉ cs) :
    (cs ++ sep :: rest).splitOn sep = cs :: rest.splitOn sep := by
  have hnot (c : Char) (hc : c ∈ cs) : (c == sep) = false := beq_false_of_ne fun heq => h (heq ▸ hc)
  exact List.splitOnP_append_cons_of_forall_mem hnot sep (beq_self_eq_true sep) rest

/-- A text is split at each of its separators, so it can be split there first. -/
theorem split_on_append (sep : Char) (a b : List Char) :
    (a ++ sep :: b).splitOn sep = a.splitOn sep ++ b.splitOn sep :=
  List.splitOnP_append_cons a b (beq_self_eq_true sep)

/-- No piece of a text holds the separator. -/
theorem not_mem_of_mem_split_on {piece : List Char} (h : piece ∈ cs.splitOn sep) : sep ∉ piece := by
  induction cs generalizing piece with
  | nil =>
      rw [List.splitOn_nil, List.mem_singleton] at h
      simp [h]
  | cons c cs ih =>
      rw [List.splitOn_cons_eq_if_modifyHead] at h
      obtain ⟨first, others, hpieces⟩ := List.exists_cons_of_ne_nil (List.splitOn_ne_nil sep cs)
      rw [hpieces] at h ih
      split at h
      · rcases List.mem_cons.1 h with rfl | h
        · simp
        · exact ih h
      · next hne =>
          rw [beq_iff_eq] at hne
          rcases List.mem_cons.1 h with rfl | h
          · simp [Ne.symm hne, ih List.mem_cons_self]
          · exact ih (List.mem_cons_of_mem first h)

/-- Texts with the same pieces are equal. -/
theorem split_text_injective {a b : String} (sep : Char)
    (h : splitText sep a = splitText sep b) : a = b := by
  have hpieces : a.toList.splitOn sep = b.toList.splitOn sep :=
    List.map_inj_right (fun _ _ heq => String.ofList_injective heq) |>.1 h
  have hjoined := congrArg [sep].intercalate hpieces
  rwa [List.intercalate_splitOn, List.intercalate_splitOn, String.toList_inj] at hjoined

/-- A text of closed lines is split into them, and nothing behind the last. -/
theorem split_text_closed_lines {lines : List String} (h : ∀ line ∈ lines, '\n' ∉ line.toList) :
    splitText '\n' (String.join (lines.map (· ++ "\n"))) = lines ++ [""] := by
  induction lines with
  | nil => rfl
  | cons line lines ih =>
      rw [List.forall_mem_cons] at h
      rw [List.map_cons, String.join_cons, splitText, String.toList_append, String.toList_append,
        List.append_assoc]
      show List.map _ (List.splitOn '\n' (line.toList ++ '\n' :: _)) = _
      rw [split_on_append_cons h.1, List.map_cons, String.ofList_toList]
      exact congrArg (line :: ·) (ih h.2)

/-- Lines without line feeds can be read back from the text in which each is closed by one. -/
theorem closed_lines_injective {a b : List String} (ha : ∀ line ∈ a, '\n' ∉ line.toList)
    (hb : ∀ line ∈ b, '\n' ∉ line.toList)
    (h : String.join (a.map (· ++ "\n")) = String.join (b.map (· ++ "\n"))) : a = b := by
  have hlines := split_text_closed_lines ha
  rw [h, split_text_closed_lines hb] at hlines
  exact (List.append_cancel_right hlines).symm

/-- A character of a joined text is one of the separator or of a piece. -/
theorem not_mem_intercalate {c : Char} {sep : String} {pieces : List String}
    (hsep : c ∉ sep.toList) (h : ∀ piece ∈ pieces, c ∉ piece.toList) :
    c ∉ (sep.intercalate pieces).toList := by
  induction pieces with
  | nil => simp
  | cons piece pieces ih =>
      rw [List.forall_mem_cons] at h
      cases pieces with
      | nil => simpa using h.1
      | cons next others =>
          have hrest := ih h.2
          rw [String.intercalate_cons_cons, String.toList_append, String.toList_append]
          simp only [List.mem_append, not_or]
          exact ⟨⟨h.1, hsep⟩, hrest⟩

/-- Joining two lists of pieces joins what each of them is joined to. -/
theorem intercalate_append (sep : String) {a b : List String} (ha : a ≠ []) (hb : b ≠ []) :
    sep.intercalate (a ++ b) = sep.intercalate a ++ sep ++ sep.intercalate b := by
  induction a with
  | nil => exact absurd rfl ha
  | cons piece pieces ih =>
      cases pieces with
      | nil =>
          obtain ⟨next, others, rfl⟩ := List.exists_cons_of_ne_nil hb
          simp [String.intercalate_cons_cons]
      | cons next others =>
          have hrest := ih (by simp)
          rw [List.cons_append] at hrest
          rw [List.cons_append, List.cons_append, String.intercalate_cons_cons, hrest,
            String.intercalate_cons_cons]
          simp only [String.append_assoc]

/-- Joined texts are equal only when their pieces are, if no piece holds the separator. -/
theorem intercalate_injective {a b : List String} (ha : a ≠ []) (hb : b ≠ [])
    (hsa : ∀ name ∈ a, '/' ∉ name.toList) (hsb : ∀ name ∈ b, '/' ∉ name.toList)
    (h : "/".intercalate a = "/".intercalate b) : a = b := by
  have hchars :
      ['/'].intercalate (a.map String.toList) = ['/'].intercalate (b.map String.toList) := by
    have hlist := congrArg String.toList h
    rwa [String.toList_intercalate, String.toList_intercalate] at hlist
  have hpieces : a.map String.toList = b.map String.toList := by
    have hsplit := congrArg (List.splitOn '/') hchars
    rwa [List.splitOn_intercalate '/' (by simpa using hsa) (by simpa using ha),
      List.splitOn_intercalate '/' (by simpa using hsb) (by simpa using hb)] at hsplit
  exact List.map_inj_right (fun _ _ heq => String.toList_inj.1 heq) |>.1 hpieces

end SceneLint.Text
