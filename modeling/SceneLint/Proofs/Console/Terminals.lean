import SceneLint.Console.Print
import SceneLint.Proofs.Console.ClosingTags

/-!
# What terminals take

A terminal prints a text if it takes it and the tags in it are matched (`print_ok_iff`), and prints
texts one after the other if it prints each (`print_all_fault_eq_none_iff`). It takes every text
with no tags but the program's own. A tag is what stands behind some bracket up to the next closing
one (`tags_bracketed`), so a text that is put into the program's tags adds none if it holds no
opening bracket. `Tagged P markup` is markup with such texts, all of which satisfy `P`: it can be
printed if they close no tag (`printed_of_tagged`), and is taken by every terminal if they hold no
opening bracket (`taken_of_tagged`).
-/

namespace SceneLint.Console

/-! ## Printing on a terminal -/

/-- What a terminal prints of a text that it takes is what it writes of the text. -/
theorem print_of_printed {t : Terminal} {markup text : String} (htaken : t.refusal? markup = none)
    (h : printed markup = .ok text) (taken : Nat) :
    t.print taken markup = .ok (t.written taken markup text) := by
  rw [Terminal.print, htaken, h]

/-- A text is printed exactly if the terminal takes it and its tags are matched. -/
theorem print_ok_iff {t : Terminal} {taken : Nat} {markup : String} :
    (∃ out, t.print taken markup = .ok out) ↔
      t.refusal? markup = none ∧ ∃ out, printed markup = .ok out := by
  rw [Terminal.print]
  cases t.refusal? markup with
  | some refusal => simp
  | none => cases printed markup <;> simp

/-- What keeps a text from being printed does so in every column. -/
theorem print_error_congr {t : Terminal} {taken : Nat} {markup : String} {fault : PrintFault}
    (h : t.print taken markup = .error fault) (taken' : Nat) :
    t.print taken' markup = .error fault := by
  rw [Terminal.print] at h ⊢
  cases hrefusal : t.refusal? markup with
  | some refusal => simpa [hrefusal] using h
  | none =>
      cases hprinted : printed markup with
      | error fault => simpa [hrefusal, hprinted] using h
      | ok text => simp [hrefusal, hprinted] at h

/-- Texts are printed one after the other without fault exactly if each can be printed. -/
theorem print_all_fault_eq_none_iff {t : Terminal} {markups : List String} :
    (printAll t markups).fault = none ↔
      ∀ markup ∈ markups, t.refusal? markup = none ∧ ∃ out, printed markup = .ok out := by
  induction markups with
  | nil => simp [printAll]
  | cons markup markups ih =>
      rw [printAll, List.forall_mem_cons, ← ih, ← @print_ok_iff t 0 markup]
      cases t.print 0 markup <;> simp

/-! ## Where tags stand -/

/-- `bracketed cs` is what stands behind each opening bracket, up to the next closing one. -/
def bracketed : List Char → List (List Char)
  | [] => []
  | c :: cs => if c = '[' then cs.takeWhile (· != ']') :: bracketed cs else bracketed cs

/-- `mode.started cs` is the tag in which a reader stands who reads on in `cs`. -/
def Mode.started (cs : List Char) : Mode → List (List Char)
  | .tag _ body => [body.reverse ++ cs.takeWhile (· != ']')]
  | _ => []

variable {a b body cs : List Char} {name : String} {P : List Char → Prop} {markup : String}

/-- What stands behind a bracket further on stands behind one of the whole text. -/
theorem bracketed_subset_cons (c : Char) (cs : List Char) : bracketed cs ⊆ bracketed (c :: cs) := by
  rw [bracketed]
  split
  · exact List.subset_cons_self _ _
  · exact List.Subset.refl _

/-- Characters hold no tags. -/
theorem tags_of_chars_append (cs : List Char) (ts : List Token) :
    tagsOf (cs.map .char ++ ts) = tagsOf ts := by
  simp [tagsOf, List.filterMap_append, List.filterMap_map]

/-- Every tag is the one in which a reader stands, or stands behind a bracket. -/
theorem tags_bracketed (cs : List Char) (mode : Mode) (place : Nat) :
    tagsOf (tokens mode place cs) ⊆ mode.started cs ++ bracketed cs := by
  induction cs generalizing mode place with
  | nil =>
      cases mode with
      | text n => simp [tokens, tagsOf, printSlashes, List.filterMap_map]
      | shown => simp [tokens, tagsOf]
      | tag position body => simp [tokens, tagsOf, Mode.started]
  | cons c cs ih =>
      have htext : ∀ n place, tagsOf (tokens (.text n) place cs) ⊆ bracketed (c :: cs) :=
        fun n place => List.Subset.trans (ih (.text n) place) (bracketed_subset_cons c cs)
      have hshown : ∀ place, tagsOf (tokens .shown place cs) ⊆ bracketed (c :: cs) :=
        fun place => List.Subset.trans (ih .shown place) (bracketed_subset_cons c cs)
      cases mode with
      | text n =>
          rw [tokens]
          split
          · exact htext _ _
          · split
            · next hopen =>
                split
                · split
                  · rw [printSlashes, tags_of_chars_append]
                    exact hshown _
                  · rw [printSlashes, tags_of_chars_append]
                    simpa [Mode.started, bracketed, hopen] using ih (.tag place []) (place + 1)
                · rw [printSlashes, tags_of_chars_append]
                  exact htext _ _
            · rw [printSlashes, tags_of_chars_append]
              exact htext _ _
      | shown =>
          rw [tokens]
          split
          · exact htext _ _
          · exact hshown _
      | tag position body =>
          rw [tokens]
          split
          · next hend =>
              subst hend
              have hrest := List.Subset.trans (htext 0 (place + 1))
                (List.subset_append_right [body.reverse] (bracketed (']' :: cs)))
              simpa [tagsOf, Mode.started] using hrest
          · next hend =>
              have hlonger : (Mode.tag position (c :: body)).started cs =
                  (Mode.tag position body).started (c :: cs) := by
                simp [Mode.started, hend]
              rw [← hlonger]
              refine List.Subset.trans (ih (.tag position (c :: body)) _)
                (List.append_subset.2 ⟨?_, ?_⟩)
              · exact List.subset_append_left _ _
              · exact List.subset_append_of_subset_right _ (bracketed_subset_cons c cs)

/-- A text without opening brackets brackets nothing. -/
theorem bracketed_append_of_not_mem (h : '[' ∉ a) (b : List Char) :
    bracketed (a ++ b) = bracketed b := by
  induction a with
  | nil => rfl
  | cons c a ih =>
      rw [List.mem_cons, not_or] at h
      rw [List.cons_append, bracketed, if_neg (Ne.symm h.1), ih h.2]

/-- A body without brackets, in brackets, is bracketed. -/
theorem bracketed_body (h : ∀ c ∈ body, c ≠ '[' ∧ c ≠ ']') (rest : List Char) :
    bracketed ('[' :: (body ++ ']' :: rest)) = body :: bracketed (']' :: rest) := by
  have hopen : '[' ∉ body := fun hmem => (h _ hmem).1 rfl
  have hbody : (body ++ ']' :: rest).takeWhile (· != ']') = body := by
    rw [List.takeWhile_append_of_pos (by simpa using fun c hc => (h c hc).2)]
    simp
  rw [bracketed, if_pos rfl, hbody, bracketed_append_of_not_mem hopen]

/-! ## Texts in the program's tags -/

/-- `Admits P` says that `P` holds of fixed text, and still of a text behind fixed text, or in front
of fixed text that starts with no slash. -/
structure Admits (P : List Char → Prop) : Prop where
  fixed {cs : List Char} : IsFixed cs → P cs
  behind {a b : List Char} : IsFixed a → P b → P (a ++ b)
  before {a b : List Char} : P a → IsFixed b → b.head? ≠ some '/' → P (a ++ b)

/-- `Tagged P markup` says that `markup` is a text with `P`, or two texts with `P`, one in a style
of the program behind fixed text, and one behind it. -/
inductive Tagged (P : List Char → Prop) : String → Prop where
  | plain {text : String} (h : P text.toList) : Tagged P text
  | styled {front name text more : String} (hfront : IsFixed front.toList)
      (hname : name ∈ styleNames) (htext : P text.toList) (hmore : P more.toList) :
      Tagged P (front ++ Span.markup ⟨some name, text⟩ ++ more)

/-- Fixed text holds no opening bracket. -/
theorem IsFixed.not_mem_open (h : IsFixed cs) : '[' ∉ cs :=
  fun hmem => (h _ hmem).1 rfl

/-- Texts that close no tag still close none with fixed text around them. -/
theorem admits_no_closing : Admits NoClosing where
  fixed h := no_closing_of_not_mem h.not_mem_open
  behind ha hb :=
    no_closing_append (no_closing_of_not_mem ha.not_mem_open) hb
      fun hlast => absurd (List.mem_of_getLast? hlast) ha.not_mem_open
  before ha hb hslash :=
    no_closing_append ha (no_closing_of_not_mem hb.not_mem_open) fun _ => hslash

/-- Texts without opening brackets still hold none with fixed text around them. -/
theorem admits_not_mem_open : Admits fun cs => '[' ∉ cs where
  fixed h := h.not_mem_open
  behind ha hb := by simp [ha.not_mem_open, hb]
  before ha hb _ := by simp [ha, hb.not_mem_open]

/-- Markup with texts that close no tag can be printed. -/
theorem printed_of_tagged (h : Tagged NoClosing markup) : ∃ out, printed markup = .ok out := by
  cases h with
  | plain h => exact printed_of_no_closing h
  | styled hfront hname htext hmore =>
      exact printed_tagged hfront (style_names_proper _ hname) htext hmore

/-- Markup with texts without opening brackets has no tags but the program's own. -/
theorem own_tags_of_tagged (h : Tagged (fun cs => '[' ∉ cs) markup) :
    ∀ body ∈ tagsOf (tokens (.text 0) 0 markup.toList), isOwnTag body = true := by
  intro body hbody
  have hmem : body ∈ bracketed markup.toList := tags_bracketed markup.toList (.text 0) 0 hbody
  cases h with
  | plain h =>
      rw [← List.append_nil markup.toList, bracketed_append_of_not_mem h] at hmem
      cases hmem
  | @styled front name text more hfront hname htext hmore =>
      have hproper := style_names_proper name hname
      have hends : '[' ∉ ']' :: text.toList ∧ '[' ∉ ']' :: more.toList := by
        simp [htext, hmore]
      rw [String.toList_append, String.toList_append, List.append_assoc, to_list_markup_append,
        bracketed_append_of_not_mem hfront.not_mem_open, bracketed_body hproper.no_brackets,
        ← List.cons_append, bracketed_append_of_not_mem hends.1,
        bracketed_body hproper.no_brackets_closing, ← List.append_nil (']' :: more.toList),
        bracketed_append_of_not_mem hends.2] at hmem
      rw [isOwnTag, List.any_eq_true]
      refine ⟨name, hname, ?_⟩
      simpa [bracketed] using hmem

/-- Every terminal takes markup with texts without opening brackets. -/
theorem taken_of_tagged (t : Terminal) (h : Tagged (fun cs => '[' ∉ cs) markup) :
    t.refusal? markup = none :=
  t.takes_own markup (own_tags_of_tagged h)

end SceneLint.Console
