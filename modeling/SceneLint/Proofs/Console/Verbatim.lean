import SceneLint.Proofs.Console.ClosingTags

/-!
# Text that is printed as it is

A text that is put into markup without being escaped may lose brackets and backslashes. `isVerbatim`
decides which texts lose nothing: no bracket of the text opens a tag, and no backslash stands before
a bracket or at the end, where the next tag begins. `printed_styled_iff` is the main statement: a
text inside a style is printed as it is exactly if it is verbatim.

One half reads a verbatim text character by character (`tokens_verbatim`). For the other half it
does not do to find the first place that is not printed as it is, because what is lost there might
be made up further on: a closing tag behind a backslash is printed as text. But then the print ends
in a bracket and the text in a backslash (`bounded_visible`), and so the two still differ.
-/

namespace SceneLint.Console

/-- `verbatimFrom slash cs` says that `cs` is printed as it is in front of a tag; `slash` says that
a backslash stands before it. -/
def verbatimFrom : Bool → List Char → Bool
  | slash, [] => !slash
  | slash, c :: cs => (c ≠ '[' || (!slash && !opensTag cs)) && verbatimFrom (c = '\\') cs

/-- `isVerbatim s` says that no bracket of `s` opens a tag, and that no backslash stands before a
bracket or at the end. -/
def isVerbatim (s : String) : Bool :=
  verbatimFrom false s.toList

variable {cs rest : List Char} {name front : String}

/-- What follows from a bracket on completes no tag. -/
theorem closes_append_open (cs rest : List Char) : closes (cs ++ '[' :: rest) = closes cs := by
  induction cs with
  | nil => rfl
  | cons c cs ih => rw [List.cons_append, closes, closes, ih]

/-- What follows from a bracket on opens no tag before it. -/
theorem opens_tag_append_open (cs rest : List Char) :
    opensTag (cs ++ '[' :: rest) = opensTag cs := by
  cases cs with
  | nil => rfl
  | cons c cs => rw [List.cons_append, opensTag, opensTag, closes_append_open]

/-! ## Reading verbatim text -/

/-- A verbatim text before a bracket is read character by character. -/
theorem tokens_verbatim {n : Nat} (h : verbatimFrom (decide (0 < n)) cs = true) (place : Nat)
    (rest : List Char) :
    ∃ place', tokens (.text n) place (cs ++ '[' :: rest) =
      (slashes n ++ cs).map .char ++ tokens (.text 0) place' ('[' :: rest) := by
  induction cs generalizing n place with
  | nil =>
      obtain rfl : n = 0 := by simpa [verbatimFrom] using h
      exact ⟨place, rfl⟩
  | cons c cs ih =>
      rw [verbatimFrom, Bool.and_eq_true] at h
      obtain ⟨hbracket, hcs⟩ := h
      by_cases hslash : c = '\\'
      · subst hslash
        obtain ⟨after, htokens⟩ := ih (n := n + 1) (by simpa using hcs) (place + 1)
        refine ⟨after, ?_⟩
        rw [List.cons_append, tokens, if_pos rfl, htokens]
        simp [slashes, List.replicate_succ']
      · obtain ⟨after, htokens⟩ := ih (n := 0) (by simpa [hslash] using hcs) (place + 1)
        refine ⟨after, ?_⟩
        by_cases hopen : c = '['
        · subst hopen
          obtain ⟨rfl, htag⟩ : n = 0 ∧ opensTag cs = false := by simpa using hbracket
          rw [List.cons_append, tokens, if_neg (by decide), if_pos rfl, opens_tag_append_open, htag,
            if_neg (by decide), htokens]
          simp [printSlashes, slashes]
        · rw [List.cons_append, tokens_text_cons hslash hopen, htokens]
          simp [printSlashes, slashes]

/-! ## What reaches the reader -/

/-- `visible ts` is the characters of tokens. -/
def visible (ts : List Token) : List Char :=
  ts.flatMap fun
    | .char c => [c]
    | .tag _ _ => []

/-- What is shown of tokens is their characters. -/
theorem visible_of_shown {stack : List String} {ts : List Token} {out : List Char}
    (h : shown stack ts = .ok out) : out = visible ts := by
  induction ts generalizing stack out with
  | nil =>
      cases h
      rfl
  | cons t ts ih =>
      cases t with
      | char c =>
          rw [shown] at h
          cases hshown : shown stack ts with
          | error fault =>
              rw [hshown] at h
              cases h
          | ok others =>
              rw [hshown] at h
              cases h
              rw [ih hshown]
              rfl
      | tag position body =>
          rw [shown] at h
          split at h
          · exact ih h
          · cases h

/-- Characters are shown before the rest. -/
theorem shown_chars (stack : List String) (cs : List Char) (ts : List Token) :
    shown stack (cs.map .char ++ ts) = (shown stack ts).map (cs ++ ·) := by
  rw [shown_eq, seen_chars, shown_eq]
  cases seen stack ts <;> simp [Except.map, cellsIn, Function.comp_def]

/-- Characters are visible. -/
theorem visible_chars (cs : List Char) (ts : List Token) :
    visible (cs.map .char ++ ts) = cs ++ visible ts := by
  induction cs with
  | nil => rfl
  | cons c cs ih => exact congrArg (c :: ·) ih

/-- Printed backslashes are visible. -/
theorem visible_slashes (n : Nat) (ts : List Token) :
    visible (printSlashes n ++ ts) = slashes n ++ visible ts :=
  visible_chars (slashes n) ts

/-- A character is visible. -/
theorem visible_char (c : Char) (ts : List Token) : visible (.char c :: ts) = c :: visible ts :=
  rfl

/-- A tag is not visible. -/
theorem visible_tag (position : Nat) (body : List Char) (ts : List Token) :
    visible (.tag position body :: ts) = visible ts :=
  rfl

/-- `closing name` is the tag that closes a style. -/
def closing (name : String) : List Char :=
  '[' :: ('/' :: name.toList ++ [']'])

/-- A text up to a closing tag is shown as text if a backslash stands before it. -/
theorem visible_shown_to_end (h : ∀ c ∈ cs, c ≠ ']') (place : Nat) :
    visible (tokens .shown place (cs ++ [']'])) = cs ++ [']'] := by
  induction cs generalizing place with
  | nil => rfl
  | cons c cs ih =>
      rw [List.cons_append, tokens, if_neg (h c List.mem_cons_self), visible_char,
        ih fun d hd => h d (List.mem_cons_of_mem c hd)]

/-- Behind an even number of backslashes a closing tag vanishes with half of them, and behind an odd
number it is visible. -/
theorem visible_closing (hname : IsStyleName name) (n place : Nat) :
    visible (tokens (.text n) place (closing name)) =
      slashes (n / 2) ++ if n % 2 = 1 then closing name else [] := by
  have hbody : ∀ c ∈ '/' :: name.toList, c ≠ ']' :=
    fun c hc => (hname.no_brackets_closing c hc).2
  have htag : opensTag ('/' :: name.toList ++ [']']) = true :=
    opens_tag_body ⟨'/', rfl, by decide⟩ hname.no_brackets_closing []
  rw [closing, tokens, if_neg (by decide), if_pos rfl, if_pos htag]
  split
  · rw [visible_slashes, visible_char, visible_shown_to_end hbody]
  · rw [visible_slashes, tokens_tag_body hbody, visible_tag]
    rfl

/-! ## Nothing that is lost can be made up -/

/-- `Mode.kept mode` is the backslashes that a reader keeps in mind. -/
def Mode.kept : Mode → List Char
  | .text n => slashes n
  | _ => []

/-- `Mode.Ending cs mode` says that a tag in which a reader stands ends in `cs`. -/
def Mode.Ending (cs : List Char) : Mode → Prop
  | .text _ => True
  | _ => closes cs = true

/-- `Bounded source out` says that a print is no longer than its source, or that it ends in a
bracket and the source in a backslash. -/
def Bounded (source out : List Char) : Prop :=
  out.length ≤ source.length ∨ out.getLast? = some ']' ∧ source.getLast? = some '\\'

variable {source out : List Char}

/-- What is printed in front makes no print too long for a source that is as much longer. -/
theorem Bounded.append {a b : List Char} (h : Bounded source out) (hlength : b.length ≤ a.length) :
    Bounded (a ++ source) (b ++ out) := by
  rcases h with h | ⟨hout, hsource⟩
  · left
    simp only [List.length_append]
    omega
  · exact .inr ⟨by simp [List.getLast?_append, hout], by simp [List.getLast?_append, hsource]⟩

/-- A character may be printed behind some of the backslashes before it. -/
theorem Bounded.char {m n : Nat} (h : Bounded source out) (c : Char) (hle : m ≤ n) :
    Bounded (slashes n ++ c :: source) (slashes m ++ c :: out) := by
  have hboth := h.append (a := slashes n ++ [c]) (b := slashes m ++ [c]) (by simpa [slashes])
  rwa [List.append_assoc, List.append_assoc] at hboth

/-- A character may be lost behind some of the backslashes before it. -/
theorem Bounded.lost {m n : Nat} (h : Bounded source out) (c : Char) (hle : m ≤ n) :
    Bounded (slashes n ++ c :: source) (slashes m ++ out) := by
  have hboth := h.append (a := slashes n ++ [c]) (b := slashes m)
    (by simpa [slashes] using Nat.le_succ_of_le hle)
  rwa [List.append_assoc] at hboth

/-- A print that is bounded by its source is no longer than it unless the two differ. -/
theorem Bounded.length_le {a b : List Char} (h : Bounded source out)
    (heq : a ++ out = b ++ source) : out.length ≤ source.length := by
  rcases h with h | ⟨hout, hsource⟩
  · exact h
  · have hlast := congrArg List.getLast? heq
    simp [List.getLast?_append, hout, hsource] at hlast

/-- What is printed of a closing tag is bounded by the backslashes before it. -/
theorem bounded_closing (hname : IsStyleName name) (n place : Nat) :
    Bounded (slashes n ++ []) (visible (tokens (.text n) place (closing name))) := by
  rw [visible_closing hname, List.append_nil]
  split
  · next hodd =>
      obtain ⟨m, rfl⟩ : ∃ m, n = m + 1 := ⟨n - 1, by omega⟩
      refine .inr ⟨?_, by simp [slashes, List.replicate_succ']⟩
      rw [closing, ← List.cons_append, ← List.append_assoc, List.getLast?_append]
      rfl
  · left
    simp only [slashes, List.length_append, List.length_replicate, List.length_nil]
    omega

/-- `BoundedBehind name cs` says that the print of `cs` in front of a closing tag is bounded by
`cs`, wherever a reader stands. -/
def BoundedBehind (name : String) (cs : List Char) : Prop :=
  ∀ (mode : Mode) (place : Nat), mode.Ending cs →
    Bounded (mode.kept ++ cs) (visible (tokens mode place (cs ++ closing name)))

/-- One character further in text, a bracket that opens a tag takes half of the backslashes before
it. -/
theorem bounded_text_cons (ih : BoundedBehind name cs) (c : Char) (n place : Nat) :
    Bounded (slashes n ++ c :: cs)
      (visible (tokens (.text n) place (c :: cs ++ closing name))) := by
  rw [List.cons_append, tokens]
  split
  · next hslash =>
      subst hslash
      have hnext := ih (.text (n + 1)) (place + 1) trivial
      rwa [Mode.kept, slashes, List.replicate_succ', List.append_assoc] at hnext
  · split
    · next hopen =>
        subst hopen
        rw [closing, opens_tag_append_open, ← closing]
        split
        · next htag =>
            have hcloses : closes cs = true := closes_of_opens_tag htag
            split
            · rw [visible_slashes, visible_char]
              exact (ih .shown (place + 1) hcloses).char '[' (Nat.div_le_self n 2)
            · rw [visible_slashes]
              exact (ih (.tag place []) (place + 1) hcloses).lost '[' (Nat.div_le_self n 2)
        · rw [visible_slashes, visible_char]
          exact (ih (.text 0) (place + 1) trivial).char '[' (Nat.sub_le n 1)
    · rw [visible_slashes, visible_char]
      exact (ih (.text 0) (place + 1) trivial).char c (Nat.le_refl n)

/-- The print of a text in front of a closing tag is bounded by the text. -/
theorem bounded_visible (hname : IsStyleName name) (cs : List Char) : BoundedBehind name cs := by
  induction cs with
  | nil =>
      intro mode place hmode
      cases mode with
      | text n => exact bounded_closing hname n place
      | shown => cases hmode
      | tag position body => cases hmode
  | cons c cs ih =>
      intro mode place hmode
      cases mode with
      | text n => exact bounded_text_cons ih c n place
      | shown =>
          rw [List.cons_append, tokens, visible_char]
          split
          · exact (ih (.text 0) (place + 1) trivial).char c (Nat.le_refl 0)
          · next hend =>
              exact (ih .shown (place + 1) (closes_tail hmode hend)).char c (Nat.le_refl 0)
      | tag position body =>
          rw [List.cons_append, tokens]
          split
          · rw [visible_tag]
            exact (ih (.text 0) (place + 1) trivial).lost c (Nat.le_refl 0)
          · next hend =>
              have hnext := ih (.tag position (c :: body)) (place + 1) (closes_tail hmode hend)
              exact hnext.lost c (Nat.le_refl 0)

/-! ## Printing a text as it is -/

/-- Backslashes before a bracket are as many as are seen. -/
theorem slashes_open_inj {m n : Nat} {xs ys : List Char}
    (h : slashes m ++ '[' :: xs = slashes n ++ '[' :: ys) : m = n ∧ xs = ys := by
  induction m generalizing n with
  | zero =>
      cases n with
      | zero => simpa [slashes] using h
      | succ n => simp [slashes, List.replicate_succ] at h
  | succ m ih =>
      cases n with
      | zero => simp [slashes, List.replicate_succ] at h
      | succ n =>
          have htail : slashes m ++ '[' :: xs = slashes n ++ '[' :: ys := by
            simpa [slashes, List.replicate_succ] using h
          obtain ⟨rfl, hrest⟩ := ih htail
          exact ⟨rfl, hrest⟩

/-- A bracket that is printed with all the backslashes before it has none, and opens no tag. -/
theorem visible_open (hname : IsStyleName name) {n place : Nat}
    (h : visible (tokens (.text n) place ('[' :: (cs ++ closing name))) = slashes n ++ '[' :: cs) :
    n = 0 ∧ opensTag cs = false ∧
      visible (tokens (.text 0) (place + 1) (cs ++ closing name)) = cs := by
  rw [tokens, if_neg (by decide), if_pos rfl, closing, opens_tag_append_open, ← closing] at h
  split at h
  · next htag =>
      exfalso
      split at h
      · rw [visible_slashes, visible_char] at h
        have hhalf : n / 2 = n := (slashes_open_inj h).1
        omega
      · -- The tag vanishes, and what is printed behind it is too short to make up for it.
        rw [visible_slashes] at h
        have hbounded := bounded_visible hname cs (.tag place []) (place + 1)
          (closes_of_opens_tag htag)
        have hle := hbounded.length_le (a := slashes (n / 2)) (b := slashes n ++ ['['])
          (by simpa [Mode.kept] using h)
        have hlength := congrArg List.length h
        simp only [Mode.kept, List.nil_append] at hle
        simp only [slashes, List.length_append, List.length_replicate, List.length_cons] at hlength
        omega
  · next htag =>
      rw [visible_slashes, visible_char] at h
      obtain ⟨hn, hrest⟩ := slashes_open_inj h
      exact ⟨by omega, by simpa using htag, hrest⟩

/-- A text that is printed as it is in front of a closing tag is verbatim. -/
theorem verbatim_of_visible (hname : IsStyleName name) {n place : Nat}
    (h : visible (tokens (.text n) place (cs ++ closing name)) = slashes n ++ cs) :
    verbatimFrom (decide (0 < n)) cs = true := by
  induction cs generalizing n place with
  | nil =>
      rw [List.nil_append, visible_closing hname, List.append_nil] at h
      have hlength := congrArg List.length h
      split at h
      · have hopen : '[' ∈ slashes n := by
          rw [← h]
          simp [closing]
        cases List.eq_of_mem_replicate hopen
      · next heven =>
          simp only [heven, if_false, slashes, List.append_nil, List.length_replicate] at hlength
          obtain rfl : n = 0 := by omega
          rfl
  | cons c cs ih =>
      rw [List.cons_append] at h
      by_cases hslash : c = '\\'
      · subst hslash
        rw [tokens, if_pos rfl] at h
        have hcs := ih (n := n + 1) (h.trans (by simp [slashes, List.replicate_succ']))
        simpa [verbatimFrom] using hcs
      · by_cases hopen : c = '['
        · subst hopen
          obtain ⟨rfl, htag, hrest⟩ := visible_open hname h
          have hcs := ih (n := 0) hrest
          simpa [verbatimFrom, htag] using hcs
        · rw [tokens_text_cons hslash hopen, visible_slashes, visible_char] at h
          have hcs := ih (n := 0) (List.cons_inj_right c |>.1 (List.append_cancel_left h))
          simpa [verbatimFrom, hslash, hopen] using hcs

/-- What is printed of a text in a style, behind fixed words, starts with the words. -/
theorem shown_styled (hfront : IsFixed front.toList) (hname : IsStyleName name) (text : String) :
    ∃ place, shown [] (tokens (.text 0) 0 (front ++ Span.markup ⟨some name, text⟩).toList) =
      (shown [name] (tokens (.text 0) place (text.toList ++ closing name))).map
        (front.toList ++ ·) := by
  have hmarkup := to_list_markup_append name text []
  rw [List.append_nil] at hmarkup
  refine ⟨0 + front.toList.length + 1 + name.toList.length + 1, ?_⟩
  rw [String.toList_append, tokens_fixed hfront, shown_chars, hmarkup,
    tokens_tag hname.starts_tag hname.no_brackets, shown, apply_tag_open hname]
  rfl

/-- A text in a style, behind fixed words, is printed as it is exactly if it is verbatim. -/
theorem printed_styled_iff (hfront : IsFixed front.toList) (hname : IsStyleName name)
    (text : String) :
    printed (front ++ Span.markup ⟨some name, text⟩) = .ok (front ++ text) ↔
      isVerbatim text = true := by
  obtain ⟨place, hshown⟩ := shown_styled hfront hname text
  constructor
  · intro h
    rw [printed, hshown] at h
    cases hout : shown [name] (tokens (.text 0) place (text.toList ++ closing name)) with
    | error fault =>
        rw [hout] at h
        cases h
    | ok out =>
        rw [hout] at h
        have hlists : front.toList ++ out = front.toList ++ text.toList := by
          rw [← String.toList_append, ← String.toList_ofList (l := front.toList ++ out)]
          exact congrArg String.toList (Except.ok.inj h)
        have hvisible : visible (tokens (.text 0) place (text.toList ++ closing name)) =
            slashes 0 ++ text.toList := by
          rw [← visible_of_shown hout]
          exact List.append_cancel_left hlists
        exact verbatim_of_visible hname hvisible
  · intro h
    obtain ⟨after, htokens⟩ := tokens_verbatim (n := 0) h place ('/' :: name.toList ++ [']'])
    rw [printed, hshown, closing, htokens, shown_chars,
      tokens_tag ⟨'/', rfl, by decide⟩ hname.no_brackets_closing, shown,
      apply_tag_close hname (close_tag_top name [])]
    simp [shown, tokens, printSlashes, slashes, Except.map]

end SceneLint.Console
