import Mathlib.Data.List.Infix
import SceneLint.Proofs.Console.StyledLines

/-!
# Text that closes no tag

The tags of markup are at fault only where one closes what is not open. A text that is put into
markup as it is may hold tags; as long as it holds no `[/`, reading it only opens styles
(`passes_of_no_closing`), so the closing tag that stands behind it still finds the style it closes.
`printed_tagged` is the outcome: such texts inside a style and behind it can always be printed.
-/

namespace SceneLint.Console

/-- `NoClosing cs` says that no bracket of `cs` is followed by a slash. -/
def NoClosing (cs : List Char) : Prop :=
  ¬ ['[', '/'] <:+: cs

variable {a b cs rest : List Char} {stack : List String} {name : String}

/-- What closes no tag does so no more from its second character on. -/
theorem NoClosing.tail {c : Char} (h : NoClosing (c :: cs)) : NoClosing cs :=
  fun hcs => h (List.infix_cons hcs)

/-- Behind a bracket there is no slash. -/
theorem NoClosing.head_ne (h : NoClosing ('[' :: cs)) : cs.head? ≠ some '/' := by
  intro hhead
  obtain ⟨rest, rfl⟩ := List.head?_eq_some_iff.1 hhead
  exact h ⟨[], rest, rfl⟩

/-- A text without opening brackets closes no tag. -/
theorem no_closing_of_not_mem (h : '[' ∉ cs) : NoClosing cs :=
  fun hcs => h (hcs.subset List.mem_cons_self)

/-- Two texts close no tag if neither does and no bracket meets a slash between them. -/
theorem no_closing_append (ha : NoClosing a) (hb : NoClosing b)
    (h : '[' ∈ a.getLast? → b.head? ≠ some '/') : NoClosing (a ++ b) := by
  induction a with
  | nil => exact hb
  | cons c a ih =>
      have hlast : '[' ∈ a.getLast? → b.head? ≠ some '/' := by
        intro hmem
        apply h
        rw [List.getLast?_cons, Option.mem_def.1 hmem]
        rfl
      intro hinfix
      rw [List.cons_append, List.infix_cons_iff] at hinfix
      rcases hinfix with hprefix | hinfix
      · rw [List.cons_prefix_cons] at hprefix
        obtain ⟨rfl, hprefix⟩ := hprefix
        cases a with
        | nil =>
            obtain ⟨rest, hrest⟩ := hprefix
            exact h rfl (by rw [← List.nil_append b, ← hrest]; rfl)
        | cons d a =>
            rw [List.cons_append, List.cons_prefix_cons] at hprefix
            obtain ⟨rfl, -⟩ := hprefix
            exact ha ⟨[], a, rfl⟩
      · exact ih ha.tail hlast hinfix

/-! ## Printing what closes no tag -/

/-- `Prints stack ts` says that no tag of `ts` closes what is not open. -/
def Prints (stack : List String) (ts : List Token) : Prop :=
  ∃ out, shown stack ts = .ok out

/-- A character can always be printed. -/
theorem prints_char {c : Char} {ts : List Token} (h : Prints stack ts) :
    Prints stack (.char c :: ts) := by
  obtain ⟨out, h⟩ := h
  exact ⟨c :: out, by rw [shown, h]; rfl⟩

/-- Characters can always be printed. -/
theorem prints_chars {ts : List Token} (h : Prints stack ts) (cs : List Char) :
    Prints stack (cs.map .char ++ ts) := by
  induction cs with
  | nil => exact h
  | cons c cs ih => exact prints_char ih

/-- A tag that can be applied can be printed. -/
theorem prints_tag {position : Nat} {body : List Char} {ts : List Token} {stack' : List String}
    (htag : applyTag position body stack = .ok stack') (h : Prints stack' ts) :
    Prints stack (.tag position body :: ts) := by
  obtain ⟨out, h⟩ := h
  exact ⟨out, by rw [shown, htag]; exact h⟩

/-- A tag that starts with no slash opens a style. -/
theorem apply_tag_of_ne_slash {body : List Char} (h : body.head? ≠ some '/') (position : Nat)
    (stack : List String) : ∃ style, applyTag position body stack = .ok (style :: stack) := by
  rw [applyTag.eq_def]
  split
  · next rest heq =>
      cases body with
      | nil => cases heq
      | cons c body =>
          rw [List.takeWhile_cons] at heq
          split at heq
          · cases heq
            exact absurd rfl h
          · cases heq
  · exact ⟨_, rfl⟩

/-- A style that is open can be closed. -/
theorem close_tag_of_mem (h : name ∈ stack) : ∃ stack', closeTag name stack = some stack' := by
  induction stack with
  | nil => cases h
  | cons top stack ih =>
      rw [closeTag]
      split
      · exact ⟨stack, rfl⟩
      · next hne =>
          obtain ⟨stack', hclose⟩ := ih ((List.mem_cons.1 h).resolve_left (Ne.symm hne))
          exact ⟨top :: stack', by rw [hclose]; rfl⟩

/-! ## Reading on -/

/-- What completes a tag, and does not start with the bracket that ends it, does so from its second
character on. -/
theorem closes_tail {c : Char} (h : closes (c :: cs) = true) (hend : c ≠ ']') :
    closes cs = true := by
  rw [closes, if_neg hend] at h
  split at h
  · cases h
  · exact h

/-- `mode.Opening cs` says that a tag in which a reader stands ends in `cs`, and that it is no
closing tag. -/
def Mode.Opening (cs : List Char) : Mode → Prop
  | .text _ => True
  | .shown => closes cs = true
  | .tag _ body => closes cs = true ∧ (body.reverse ++ cs).head? ≠ some '/'

/-- `PrintsAbove stack rest` says that `rest` can be printed with all the styles of `stack` open,
and perhaps others. -/
def PrintsAbove (stack : List String) (rest : List Char) : Prop :=
  ∀ stack' n place, stack ⊆ stack' → Prints stack' (tokens (.text n) place rest)

/-- `Passes cs rest` says that `cs` can be printed in front of `rest`, wherever a reader stands. -/
def Passes (cs rest : List Char) : Prop :=
  ∀ (mode : Mode) (stack : List String) (place : Nat), mode.Opening (cs ++ rest) →
    PrintsAbove stack rest → Prints stack (tokens mode place (cs ++ rest))

/-- What can be printed under some styles can be under more. -/
theorem PrintsAbove.cons (h : PrintsAbove stack rest) (style : String) :
    PrintsAbove (style :: stack) rest :=
  fun stack' n place hsub =>
    h stack' n place (List.Subset.trans (List.subset_cons_self style stack) hsub)

/-- One character further in text, a bracket may open a tag but closes none. -/
theorem prints_text_cons {c : Char} (hcs : NoClosing (c :: cs))
    (hrest : ∀ c ∈ rest.head?, c = '[') (ih : Passes cs rest) (h : PrintsAbove stack rest)
    (n place : Nat) : Prints stack (tokens (.text n) place (c :: (cs ++ rest))) := by
  rw [tokens]
  split
  · exact ih (.text (n + 1)) stack _ trivial h
  · split
    · next hopen =>
        subst hopen
        split
        · next htag =>
            have hcloses : closes (cs ++ rest) = true := closes_of_opens_tag htag
            have hslash : (cs ++ rest).head? ≠ some '/' := by
              cases cs with
              | nil =>
                  intro hslash
                  exact absurd (hrest '/' hslash) (by decide)
              | cons d cs => exact hcs.head_ne
            split
            · exact prints_chars (prints_char (ih .shown stack _ hcloses h)) _
            · exact prints_chars (ih (.tag place []) stack _ ⟨hcloses, hslash⟩ h) _
        · exact prints_chars (prints_char (ih (.text 0) stack _ trivial h)) _
    · exact prints_chars (prints_char (ih (.text 0) stack _ trivial h)) _

/-- One character further in a tag that is shown, it may end. -/
theorem prints_shown_cons {c : Char} (hcloses : closes (c :: (cs ++ rest)) = true)
    (ih : Passes cs rest) (h : PrintsAbove stack rest) (place : Nat) :
    Prints stack (tokens .shown place (c :: (cs ++ rest))) := by
  rw [tokens]
  apply prints_char
  split
  · exact ih (.text 0) stack _ trivial h
  · next hend => exact ih .shown stack _ (closes_tail hcloses hend) h

/-- One character further in a tag, it may end and open a style. -/
theorem prints_tag_cons {c : Char} {position : Nat} {body : List Char}
    (hmode : Mode.Opening (c :: (cs ++ rest)) (.tag position body)) (ih : Passes cs rest)
    (h : PrintsAbove stack rest) (place : Nat) :
    Prints stack (tokens (.tag position body) place (c :: (cs ++ rest))) := by
  obtain ⟨hcloses, hslash⟩ := hmode
  rw [tokens]
  split
  · next hend =>
      subst hend
      have hhead : body.reverse.head? ≠ some '/' := by
        cases hbody : body.reverse with
        | nil => simp
        | cons d ds =>
            rw [hbody] at hslash
            exact hslash
      obtain ⟨style, htag⟩ := apply_tag_of_ne_slash hhead position stack
      exact prints_tag htag (ih (.text 0) (style :: stack) _ trivial (h.cons style))
  · next hend =>
      refine ih (.tag position (c :: body)) stack _ ⟨closes_tail hcloses hend, ?_⟩ h
      rwa [List.reverse_cons, List.append_assoc]

/-- Text that closes no tag can be printed in front of a bracket, or of nothing. -/
theorem passes_of_no_closing (hcs : NoClosing cs) (hrest : ∀ c ∈ rest.head?, c = '[') :
    Passes cs rest := by
  induction cs with
  | nil =>
      intro mode stack place hmode h
      -- What follows starts with a bracket, so no tag that began before ends in it.
      have hclosed : closes rest = false := by
        cases rest with
        | nil => rfl
        | cons c rest =>
            obtain rfl := hrest c rfl
            rfl
      cases mode with
      | text n => exact h stack n place (List.Subset.refl stack)
      | shown => exact absurd hmode (by simp [Mode.Opening, hclosed])
      | tag position body => exact absurd hmode.1 (by simp [hclosed])
  | cons c cs ih =>
      intro mode stack place hmode h
      have hpasses : Passes cs rest := ih hcs.tail
      cases mode with
      | text n => exact prints_text_cons hcs hrest hpasses h n place
      | shown => exact prints_shown_cons hmode hpasses h place
      | tag position body => exact prints_tag_cons hmode hpasses h place

/-- Text that closes no tag can be printed. -/
theorem prints_text (hcs : NoClosing cs) (mode : Mode) (hmode : mode.Opening cs) (place : Nat) :
    Prints stack (tokens mode place cs) := by
  have hend : ∀ (stack : List String) (n place : Nat),
      Prints stack (tokens (.text n) place []) := by
    intro stack n place
    rw [tokens, printSlashes, ← List.append_nil (List.map _ _)]
    exact prints_chars ⟨[], rfl⟩ _
  rw [← List.append_nil cs] at hmode ⊢
  exact passes_of_no_closing hcs (by simp) mode stack place hmode
    fun stack' n place' _ => hend stack' n place'

/-- A closing tag of an open style can be printed before text that closes no tag. -/
theorem prints_closing (hname : IsStyleName name) (hopen : name ∈ stack) (hcs : NoClosing cs)
    (n place : Nat) :
    Prints stack (tokens (.text n) place ('[' :: ('/' :: name.toList ++ ']' :: cs))) := by
  have htag : opensTag ('/' :: name.toList ++ ']' :: cs) = true :=
    opens_tag_body ⟨'/', rfl, by decide⟩ hname.no_brackets_closing cs
  rw [tokens, if_neg (by decide), if_pos rfl, if_pos htag]
  split
  · -- Backslashes before the tag make it text, and the style stays open.
    refine prints_chars (prints_char (prints_text ?_ .shown (closes_of_opens_tag htag) _)) _
    have hbody : '[' ∉ '/' :: name.toList := fun hmem => (hname.no_brackets_closing _ hmem).1 rfl
    refine no_closing_append (no_closing_of_not_mem hbody) ?_ ?_
    · exact no_closing_append (a := [']']) (no_closing_of_not_mem (by decide)) hcs (by simp)
    · intro hlast
      exact absurd (List.mem_of_getLast? hlast) hbody
  · obtain ⟨stack', hclose⟩ := close_tag_of_mem hopen
    rw [tokens_tag_body fun c hc => (hname.no_brackets_closing c hc).2]
    refine prints_chars (prints_tag (apply_tag_close hname hclose place) ?_) _
    exact prints_text hcs (.text 0) trivial _

/-- Texts that close no tag can be printed inside a style and behind it. -/
theorem printed_tagged {front text more : String} (hfront : IsFixed front.toList)
    (hname : IsStyleName name) (htext : NoClosing text.toList) (hmore : NoClosing more.toList) :
    ∃ out, printed (front ++ Span.markup ⟨some name, text⟩ ++ more) = .ok out := by
  have hprints : Prints [] (tokens (.text 0) 0
      (front ++ Span.markup ⟨some name, text⟩ ++ more).toList) := by
    rw [String.toList_append, String.toList_append, List.append_assoc, tokens_fixed hfront,
      to_list_markup_append, tokens_tag hname.starts_tag hname.no_brackets]
    refine prints_chars (prints_tag (apply_tag_open hname _ _) ?_) _
    refine passes_of_no_closing htext (by simp) (.text 0) [name] _ trivial ?_
    intro stack n place hsub
    exact prints_closing hname (hsub List.mem_cons_self) hmore n place
  obtain ⟨out, hshown⟩ := hprints
  exact ⟨String.ofList out, by rw [printed, hshown]; rfl⟩

/-- Text that closes no tag can be printed alone. -/
theorem printed_of_no_closing {text : String} (h : NoClosing text.toList) :
    ∃ out, printed text = .ok out := by
  obtain ⟨out, hshown⟩ : Prints [] (tokens (.text 0) 0 text.toList) :=
    prints_text h (.text 0) trivial 0
  exact ⟨String.ofList out, by rw [printed, hshown]; rfl⟩

end SceneLint.Console
