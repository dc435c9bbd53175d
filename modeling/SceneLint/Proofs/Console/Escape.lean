import Mathlib.Data.List.Basic
import SceneLint.Console.Markup

/-!
# Escaped text inside markup

`legible s` is what a reader sees of a text that was escaped: the text itself, except that a
backslash before a bracket which opens no tag is lost, and that one backslash at the end is doubled.
`tokens_escape` says so of a text inside markup, as long as what follows is `Calm`: the line ends
there, and no closing bracket behind it can complete a tag. A text without backslashes is seen as it
is (`legible_of_not_mem`).

Escaping counts the backslashes before a tag, and guards those at the end of the text afterwards;
`escapedFrom` does both in one pass, and `escape_eq` says that it comes to the same.
-/

namespace SceneLint.Console

/-- `legibleFrom n cs` is what a reader sees of `cs` behind `n` backslashes, once both are
escaped. -/
def legibleFrom : Nat → List Char → List Char
  | n, [] => slashes (if n = 1 then 2 else n)
  | n, c :: cs =>
      if c = '\\' then legibleFrom (n + 1) cs
      else slashes (if c = '[' && !opensTag cs then n - 1 else n) ++ c :: legibleFrom 0 cs

/-- `legible s` is what a reader sees of the text `s` once it is escaped. -/
def legible (s : String) : String :=
  String.ofList (legibleFrom 0 s.toList)

/-- `Calm rest` says that `rest` ends the line it follows, and that no closing bracket comes before
the next opening one. -/
structure Calm (rest : List Char) : Prop where
  closes_eq : closes rest = false
  head_eq : ∀ c ∈ rest.head?, c = '\n'

/-- Nothing is calm. -/
theorem calm_nil : Calm [] := ⟨rfl, by simp⟩

/-- A line feed is calm before what completes no tag. -/
theorem calm_line_feed {rest : List Char} (h : closes rest = false) : Calm ('\n' :: rest) := by
  refine ⟨?_, by simp⟩
  simpa [closes] using h

/-- A text without backslashes is seen as it is. -/
theorem legible_of_not_mem {s : String} (h : '\\' ∉ s.toList) : legible s = s := by
  have hfrom : ∀ cs : List Char, '\\' ∉ cs → legibleFrom 0 cs = cs := by
    intro cs hcs
    induction cs with
    | nil => rfl
    | cons c cs ih =>
        rw [List.mem_cons, not_or] at hcs
        rw [legibleFrom, if_neg (Ne.symm hcs.1), ih hcs.2]
        split <;> rfl
  rw [legible, hfrom _ h, String.ofList_toList]

/-! ## Escaping in one pass -/

/-- `pending n cs` is how many backslashes stand at the end of `cs`, if `n` stand before it. -/
def pending (n : Nat) (cs : List Char) : Nat :=
  cs.foldl (fun n c => if c = '\\' then n + 1 else 0) n

/-- `escapedFrom n cs` escapes `cs`, which stands behind `n` backslashes. -/
def escapedFrom : Nat → List Char → List Char
  | n, [] => slashes (if n = 1 then 1 else 0)
  | n, c :: cs =>
      if c = '[' && opensTag cs then slashes (n + 1) ++ '[' :: escapedFrom 0 cs
      else c :: escapedFrom (if c = '\\' then n + 1 else 0) cs

/-- One more backslash stands at the end when a backslash is added, and none when anything else
is. -/
theorem pending_concat (n : Nat) (cs : List Char) (c : Char) :
    pending n (cs ++ [c]) = if c = '\\' then pending n cs + 1 else 0 := by
  simp [pending]

/-- No backslash before another character stands at the end. -/
theorem pending_append_cons {c : Char} (h : c ≠ '\\') (n : Nat) (a b : List Char) :
    pending n (a ++ c :: b) = pending 0 b := by
  simp [pending, h]

/-- Escaping tags changes nothing at the end. -/
theorem pending_escape_tags (n : Nat) (cs : List Char) :
    pending n (escapeTags n cs) = pending n cs := by
  fun_induction escapeTags n cs with
  | case1 => rfl
  | case2 n c cs htag ih =>
      simp only [Bool.and_eq_true, decide_eq_true_eq] at htag
      obtain ⟨rfl, _⟩ := htag
      rw [pending_append_cons (by decide), ih]
      rfl
  | case3 n c cs _ ih => exact ih

/-- The end is guarded where a single backslash stands. -/
theorem guard_end_eq (cs : List Char) :
    guardEnd cs = cs ++ slashes (if pending 0 cs = 1 then 1 else 0) := by
  rcases List.eq_nil_or_concat' cs with rfl | ⟨front, c, rfl⟩
  · rfl
  rw [pending_concat, guardEnd, List.reverse_append, List.reverse_singleton, List.singleton_append]
  by_cases hc : c = '\\'
  · subst hc
    rcases List.eq_nil_or_concat' front with rfl | ⟨front, d, rfl⟩
    · rfl
    rw [pending_concat]
    by_cases hd : d = '\\' <;> simp [hd, slashes]
  · simp [hc, slashes]

/-- Escaping in one pass escapes the tags and guards the end. -/
theorem escaped_from_eq (n : Nat) (cs : List Char) :
    escapedFrom n cs = escapeTags n cs ++ slashes (if pending n cs = 1 then 1 else 0) := by
  fun_induction escapeTags n cs with
  | case1 => rfl
  | case2 n c cs htag ih =>
      rw [escapedFrom, if_pos htag, ih]
      simp only [Bool.and_eq_true, decide_eq_true_eq] at htag
      obtain ⟨rfl, _⟩ := htag
      rw [List.append_assoc, List.cons_append]
      rfl
  | case3 n c cs htag ih =>
      rw [escapedFrom, if_neg htag, ih]
      rfl

/-- A text is escaped in one pass. -/
theorem escape_eq (s : String) : (escape s).toList = escapedFrom 0 s.toList := by
  rw [escape, String.toList_ofList, guard_end_eq, escaped_from_eq, pending_escape_tags]

/-! ## What escaping does to tags -/

variable {rest cs : List Char}

/-- Backslashes neither open nor close a tag. -/
theorem closes_slashes_append (n : Nat) (cs : List Char) :
    closes (slashes n ++ cs) = closes cs := by
  induction n with
  | zero => rfl
  | succ n ih => simpa [slashes, List.replicate_succ, closes] using ih

/-- A closing bracket comes before any opening one in a text exactly when it does so in the escaped
text. -/
theorem closes_escaped (h : Calm rest) (n : Nat) (cs : List Char) :
    closes (escapedFrom n cs ++ rest) = closes cs := by
  induction cs generalizing n with
  | nil =>
      rw [escapedFrom, closes_slashes_append, h.closes_eq]
      rfl
  | cons c cs ih =>
      rw [escapedFrom]
      split
      · next htag =>
          simp only [Bool.and_eq_true, decide_eq_true_eq] at htag
          obtain ⟨rfl, _⟩ := htag
          rw [List.append_assoc, closes_slashes_append]
          rfl
      · rw [List.cons_append, closes, closes, ih]

/-- An escaped text continues a bracket to a tag exactly when the text does. -/
theorem opens_tag_escaped (h : Calm rest) (cs : List Char) :
    opensTag (escapedFrom 0 cs ++ rest) = opensTag cs := by
  cases cs with
  | nil =>
      cases rest with
      | nil => rfl
      | cons c rest =>
          obtain rfl := h.head_eq c rfl
          rfl
  | cons c cs =>
      rw [escapedFrom]
      split
      · next htag =>
          -- The text goes on with a bracket, and the escaped text with a backslash before it.
          simp only [Bool.and_eq_true, decide_eq_true_eq] at htag
          obtain ⟨rfl, _⟩ := htag
          rfl
      · rw [List.cons_append, opensTag, opensTag, closes_escaped h]

/-- What continues a bracket to a tag closes it. -/
theorem closes_of_opens_tag (h : opensTag cs = true) : closes cs = true := by
  cases cs with
  | nil => cases h
  | cons c cs =>
      simp only [opensTag, Bool.and_eq_true] at h
      have hopen : c ≠ '[' := by
        rintro rfl
        exact absurd h.1 (by decide)
      simp [closes, hopen, h.2]

/-! ## Reading markup -/

/-- Printing backslashes and one more is printing one more in all. -/
theorem print_slashes_succ (n : Nat) (ts : List Token) :
    printSlashes n ++ .char '\\' :: ts = printSlashes (n + 1) ++ ts := by
  simp [printSlashes, slashes, List.replicate_succ']

/-- Backslashes wait until it is known what they stand before. -/
theorem tokens_slashes (n k place : Nat) (cs : List Char) :
    tokens (.text n) place (slashes k ++ cs) = tokens (.text (n + k)) (place + k) cs := by
  induction k generalizing n place with
  | zero => rfl
  | succ k ih =>
      rw [slashes, List.replicate_succ, List.cons_append, tokens, if_pos rfl, ← slashes, ih,
        Nat.add_assoc, Nat.add_assoc, Nat.add_comm 1 k]

/-- Where a line ends, the backslashes before are printed. -/
theorem tokens_calm (h : Calm rest) (n place : Nat) :
    tokens (.text n) place rest = printSlashes n ++ tokens (.text 0) place rest := by
  cases rest with
  | nil => simp [tokens, printSlashes, slashes]
  | cons c rest =>
      obtain rfl := h.head_eq c rfl
      simp [tokens, printSlashes, slashes]

/-- A character that is neither a backslash nor a bracket is printed behind the backslashes. -/
theorem tokens_text_cons {c : Char} (hslash : c ≠ '\\') (hopen : c ≠ '[') (n place : Nat)
    (cs : List Char) :
    tokens (.text n) place (c :: cs) =
      printSlashes n ++ .char c :: tokens (.text 0) (place + 1) cs := by
  rw [tokens, if_neg hslash, if_neg hopen]

/-- A bracket that opens a tag has an odd number of backslashes before it once it is escaped, so the
tag is shown as text. -/
theorem tokens_escaped_opening (h : Calm rest) {cs : List Char} (htag : opensTag cs = true)
    (n place : Nat) {ts : List Token}
    (hshown : tokens .shown (place + (n + 1) + 1) (escapedFrom 0 cs ++ rest) = ts) :
    tokens (.text n) place (escapedFrom n ('[' :: cs) ++ rest) =
      (slashes n).map .char ++ .char '[' :: ts := by
  have hodd : (n + (n + 1)) % 2 = 1 := by omega
  have hhalf : (n + (n + 1)) / 2 = n := by omega
  rw [escapedFrom, if_pos (by simp [htag]), List.append_assoc, tokens_slashes, List.cons_append,
    tokens, if_neg (by decide), if_pos rfl, opens_tag_escaped h, if_pos htag, if_pos hodd, hhalf,
    hshown, printSlashes]

/-- A bracket that opens no tag is left as it is, and takes one backslash before it away. -/
theorem tokens_escaped_bracket (h : Calm rest) {cs : List Char} (htag : opensTag cs = false)
    (n place : Nat) :
    tokens (.text n) place (escapedFrom n ('[' :: cs) ++ rest) =
      (slashes (n - 1)).map .char ++ .char '[' ::
        tokens (.text 0) (place + 1) (escapedFrom 0 cs ++ rest) := by
  rw [escapedFrom, if_neg (by simp [htag]), if_neg (by decide), List.cons_append, tokens,
    if_neg (by decide), if_pos rfl, opens_tag_escaped h, htag, if_neg (by decide), printSlashes]

/-- An escaped text is printed as it is legible, and reading goes on behind it. Inside a tag that is
shown as text, the backslashes before have been printed already. -/
theorem tokens_escaped (h : Calm rest) (n place : Nat) (cs : List Char) :
    (∃ place', tokens (.text n) place (escapedFrom n cs ++ rest) =
      (legibleFrom n cs).map .char ++ tokens (.text 0) place' rest) ∧
    (closes cs = true →
      ∃ place', printSlashes n ++ tokens .shown place (escapedFrom n cs ++ rest) =
        (legibleFrom n cs).map .char ++ tokens (.text 0) place' rest) := by
  -- A tag that is shown goes over into text at its closing bracket, so both parts need each other.
  induction cs generalizing n place with
  | nil =>
      refine ⟨⟨place + if n = 1 then 1 else 0, ?_⟩, fun hclose => by cases hclose⟩
      rw [escapedFrom, tokens_slashes, tokens_calm h, legibleFrom, printSlashes]
      split
      · next hone => rw [hone]
      · rfl
  | cons c cs ih =>
      by_cases hslash : c = '\\'
      · subst hslash
        obtain ⟨htext, hshown⟩ := ih (n + 1) (place + 1)
        refine ⟨htext, fun hclose => ?_⟩
        rw [← print_slashes_succ] at hshown
        exact hshown hclose
      obtain ⟨⟨after, htext⟩, hshown⟩ := ih 0 (place + 1)
      constructor
      · by_cases hopen : c = '['
        · subst hopen
          cases htag : opensTag cs with
          | true =>
              obtain ⟨after, hshown⟩ := (ih 0 (place + (n + 1) + 1)).2 (closes_of_opens_tag htag)
              refine ⟨after, (tokens_escaped_opening h htag n place hshown).trans ?_⟩
              simp [legibleFrom, htag]
          | false =>
              refine ⟨after, (tokens_escaped_bracket h htag n place).trans ?_⟩
              simp [legibleFrom, htag, htext]
        · refine ⟨after, ?_⟩
          rw [escapedFrom, if_neg (by simp [hopen]), if_neg hslash, List.cons_append,
            tokens_text_cons hslash hopen, htext, legibleFrom, if_neg hslash]
          simp [hopen, printSlashes]
      · intro hclose
        have hopen : c ≠ '[' := by
          rintro rfl
          simp [closes] at hclose
        have hgoal : ∀ after ts, ts = (legibleFrom 0 cs).map Token.char ++
            tokens (.text 0) after rest → printSlashes n ++ .char c :: ts =
              (legibleFrom n (c :: cs)).map Token.char ++ tokens (.text 0) after rest := by
          rintro after ts rfl
          rw [legibleFrom, if_neg hslash]
          simp [hopen, printSlashes]
        rw [escapedFrom, if_neg (by simp [hopen]), if_neg hslash, List.cons_append, tokens]
        by_cases hend : c = ']'
        · rw [if_pos hend]
          exact ⟨after, hgoal after _ htext⟩
        · rw [closes, if_neg hend, if_neg hopen] at hclose
          obtain ⟨after, hshown⟩ := hshown hclose
          rw [if_neg hend]
          exact ⟨after, hgoal after _ hshown⟩

/-- An escaped text inside markup is printed as it is legible, and reading goes on behind it. -/
theorem tokens_escape (s : String) (h : Calm rest) (place : Nat) :
    ∃ place', tokens (.text 0) place ((escape s).toList ++ rest) =
      (legible s).toList.map .char ++ tokens (.text 0) place' rest := by
  rw [escape_eq, legible, String.toList_ofList]
  exact (tokens_escaped h 0 place s.toList).1

end SceneLint.Console
