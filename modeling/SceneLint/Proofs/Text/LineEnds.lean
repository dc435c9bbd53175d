import Mathlib.Data.List.Basic
import SceneLint.Proofs.Text.Lines

/-!
# Lines and the ends they were written with

`ended entries` writes lines one below the other, each with a line end of its own. `lines_inverse`
says that `lines` is the inverse of this and of nothing else: lines are read as they were written,
and every text is the one that its lines give when each has its end back. Behind it stand the step
from one line to the next (`lines_ended_cons`, `lines_ended_append`) and the fact that every text is
made of ended lines and a rest without line feeds (`exists_ended`).
-/

namespace SceneLint.Text

/-- A line ends with a line feed, or with a carriage return and a line feed. -/
inductive LineEnd where
  | feed
  | returnFeed
  deriving DecidableEq, Repr

/-- `e.chars` is the characters of a line end. -/
def LineEnd.chars : LineEnd → List Char
  | feed => ['\n']
  | returnFeed => ['\r', '\n']

/-- `ended entries` is the text of lines, each followed by its end. -/
def ended (entries : List (List Char × LineEnd)) : List Char :=
  entries.flatMap fun entry => entry.1 ++ entry.2.chars

/-- `Fits line e` says that `line` is read as it is in front of `e`: it holds no line feed, and no
carriage return at its end that a line feed would take. -/
def Fits (line : List Char) (e : LineEnd) : Prop :=
  '\n' ∉ line ∧ (e = .feed → line.getLast? ≠ some '\r')

/-- `Regained lines text` says that `text` is `lines` with an end behind each, where the last one
may have no end or a carriage return alone. -/
inductive Regained : List (List Char) → List Char → Prop where
  | closed (entries) : Regained (entries.map Prod.fst) (ended entries)
  | unclosed (entries last tail) :
      tail = [] ∨ tail = ['\r'] →
      Regained (entries.map Prod.fst ++ [last]) (ended entries ++ last ++ tail)

variable {line rest text : List Char} {e : LineEnd} {entries : List (List Char × LineEnd)}

/-! ## Reading ended lines -/

/-- A line that fits its end is read back from in front of it. -/
theorem lines_ended_cons (h : Fits line e) (rest : List Char) :
    lines (line ++ e.chars ++ rest) = line :: lines rest := by
  obtain ⟨hfeed, hlast⟩ := h
  cases e with
  | feed =>
      have htext : line ++ LineEnd.feed.chars ++ rest = line ++ '\n' :: rest := by
        simp [LineEnd.chars]
      rw [htext, lines_append_cons hfeed, drop_return_of_last (hlast rfl)]
  | returnFeed =>
      have htext : line ++ LineEnd.returnFeed.chars ++ rest = line ++ ['\r'] ++ '\n' :: rest := by
        simp [LineEnd.chars]
      have hreturn : '\n' ∉ line ++ ['\r'] := by simpa using hfeed
      rw [htext, lines_append_cons hreturn, drop_return_concat]

/-- Lines that fit their ends are read back, and then the lines of the rest. -/
theorem lines_ended_append (h : ∀ entry ∈ entries, Fits entry.1 entry.2) (rest : List Char) :
    lines (ended entries ++ rest) = entries.map Prod.fst ++ lines rest := by
  induction entries with
  | nil => rfl
  | cons entry entries ih =>
      rw [List.forall_mem_cons] at h
      have htext : ended (entry :: entries) ++ rest =
          entry.1 ++ entry.2.chars ++ (ended entries ++ rest) := by
        simp [ended]
      rw [htext, lines_ended_cons h.1, ih h.2]
      rfl

/-! ## Every text is made of ended lines -/

/-- A line in front of a line feed is a line that fits its end. -/
theorem exists_fits (h : '\n' ∉ line) :
    ∃ shown e, line ++ ['\n'] = shown ++ LineEnd.chars e ∧ Fits shown e := by
  by_cases hlast : line.getLast? = some '\r'
  · obtain ⟨shown, rfl⟩ := List.getLast?_eq_some_iff.1 hlast
    refine ⟨shown, .returnFeed, by simp [LineEnd.chars], ?_, by simp⟩
    exact fun hmem => h (List.mem_append_left _ hmem)
  · exact ⟨line, .feed, rfl, h, fun _ => hlast⟩

/-- Every text is made of lines with their ends and a rest without line feeds. -/
theorem exists_ended (text : List Char) : ∃ entries rest,
    text = ended entries ++ rest ∧ (∀ entry ∈ entries, Fits entry.1 entry.2) ∧ '\n' ∉ rest := by
  -- What follows the first line feed is a shorter text.
  induction hn : text.length using Nat.strongRecOn generalizing text with
  | ind n ih =>
      cases hcut : cut? ['\n'] text with
      | none => exact ⟨[], text, rfl, by simp, cut?_char_eq_none_iff.1 hcut⟩
      | some pieces =>
          obtain ⟨line, tail⟩ := pieces
          obtain ⟨rfl, hline⟩ := cut?_char_eq_some_iff.1 hcut
          have hlt : tail.length < n := by
            rw [← hn, List.length_append, List.length_cons]
            omega
          obtain ⟨entries, rest, rfl, hfits, hrest⟩ := ih tail.length hlt tail rfl
          obtain ⟨shown, e, hshown, hfit⟩ := exists_fits hline
          refine ⟨(shown, e) :: entries, rest, ?_, List.forall_mem_cons.2 ⟨hfit, hfits⟩, hrest⟩
          calc line ++ '\n' :: (ended entries ++ rest)
              = line ++ ['\n'] ++ (ended entries ++ rest) := by simp
            _ = shown ++ e.chars ++ (ended entries ++ rest) := by rw [hshown]
            _ = ended ((shown, e) :: entries) ++ rest := by simp [ended]

/-- What a line loses is nothing or one carriage return. -/
theorem exists_return (line : List Char) :
    ∃ tail, (tail = [] ∨ tail = ['\r']) ∧ line = dropReturn line ++ tail := by
  by_cases hlast : line.getLast? = some '\r'
  · obtain ⟨shown, rfl⟩ := List.getLast?_eq_some_iff.1 hlast
    exact ⟨['\r'], .inr rfl, by rw [drop_return_concat]⟩
  · exact ⟨[], .inl rfl, by rw [drop_return_of_last hlast, List.append_nil]⟩

/-- A text is regained from its lines. -/
theorem regained_lines (text : List Char) : Regained (lines text) text := by
  obtain ⟨entries, rest, rfl, hfits, hrest⟩ := exists_ended text
  rw [lines_ended_append hfits]
  by_cases hne : rest = []
  · subst hne
    rw [lines_nil, List.append_nil, List.append_nil]
    exact .closed entries
  · obtain ⟨tail, htail, hline⟩ := exists_return rest
    rw [lines_of_not_mem hrest hne]
    have hregained := Regained.unclosed entries (dropReturn rest) tail htail
    rwa [List.append_assoc, ← hline] at hregained

/-- No line of a text holds a line feed. -/
theorem not_mem_of_mem_lines (h : line ∈ lines text) : '\n' ∉ line := by
  obtain ⟨entries, rest, rfl, hfits, hrest⟩ := exists_ended text
  rw [lines_ended_append hfits, List.mem_append] at h
  rcases h with h | h
  · obtain ⟨entry, hentry, rfl⟩ := List.mem_map.1 h
    exact (hfits entry hentry).1
  · by_cases hne : rest = []
    · simp [hne] at h
    · rw [lines_of_not_mem hrest hne, List.mem_singleton] at h
      obtain ⟨tail, _, hline⟩ := exists_return rest
      rw [hline, List.mem_append, not_or, ← h] at hrest
      exact hrest.1

/-! ## Only line feeds cut -/

/-- Ended lines hold one line feed each. -/
theorem count_ended (h : ∀ entry ∈ entries, Fits entry.1 entry.2) :
    (ended entries).count '\n' = entries.length := by
  induction entries with
  | nil => rfl
  | cons entry entries ih =>
      rw [List.forall_mem_cons] at h
      have hchars : entry.2.chars.count '\n' = 1 := by
        cases entry.2 <;> rfl
      have htext : ended (entry :: entries) = entry.1 ++ entry.2.chars ++ ended entries := rfl
      rw [htext, List.count_append, List.count_append, List.count_eq_zero_of_not_mem h.1.1, hchars,
        ih h.2, List.length_cons]
      omega

/-- A text of ended lines is empty or stops with a line feed. -/
theorem ended_eq_nil_or_last (entries : List (List Char × LineEnd)) :
    ended entries = [] ∨ (ended entries).getLast? = some '\n' := by
  rcases List.eq_nil_or_concat entries with rfl | ⟨entries, entry, rfl⟩
  · exact .inl rfl
  · right
    have hchars : entry.2.chars.getLast? = some '\n' := by
      cases entry.2 <;> rfl
    simp [ended, hchars]

/-- A text has a line for each line feed, and one more if it goes on behind the last. -/
theorem length_lines (text : List Char) : (lines text).length =
    text.count '\n' + if text = [] ∨ text.getLast? = some '\n' then 0 else 1 := by
  obtain ⟨entries, rest, rfl, hfits, hrest⟩ := exists_ended text
  rw [lines_ended_append hfits, List.length_append, List.length_map, List.count_append,
    count_ended hfits, List.count_eq_zero_of_not_mem hrest]
  by_cases hne : rest = []
  · subst hne
    rw [List.append_nil, if_pos (ended_eq_nil_or_last entries)]
    rfl
  · have hopen : ¬ (ended entries ++ rest = [] ∨ (ended entries ++ rest).getLast? = some '\n') := by
      rw [List.getLast?_append_of_ne_nil _ hne, not_or]
      exact ⟨by simp [hne], fun hlast => hrest (List.mem_of_getLast? hlast)⟩
    rw [if_neg hopen, lines_of_not_mem hrest hne]
    rfl

/-- Lines without line feeds and without a carriage return at their ends are read as they were
written, with any of the two ends behind each of them, and behind the last one none if it shows.
Every text, in turn, is its lines with an end behind each, and none of them holds a line feed; a
text is cut at its line feeds only, whatever other characters it holds. -/
theorem lines_inverse :
    (∀ entries : List (List Char × LineEnd),
      (∀ entry ∈ entries, '\n' ∉ entry.1 ∧ entry.1.getLast? ≠ some '\r') →
      lines (ended entries) = entries.map Prod.fst ∧
      ∀ last, '\n' ∉ last → last.getLast? ≠ some '\r' → last ≠ [] →
        lines (ended entries ++ last) = entries.map Prod.fst ++ [last]) ∧
    ∀ text, Regained (lines text) text ∧ (∀ line ∈ lines text, '\n' ∉ line) ∧
      (lines text).length =
        text.count '\n' + if text = [] ∨ text.getLast? = some '\n' then 0 else 1 := by
  constructor
  · intro entries hentries
    have hfits : ∀ entry ∈ entries, Fits entry.1 entry.2 :=
      fun entry hentry => ⟨(hentries entry hentry).1, fun _ => (hentries entry hentry).2⟩
    constructor
    · have hlines := lines_ended_append hfits []
      rwa [lines_nil, List.append_nil, List.append_nil] at hlines
    · intro last hfeed hreturn hne
      rw [lines_ended_append hfits, lines_of_not_mem hfeed hne, drop_return_of_last hreturn]
  · intro text
    exact ⟨regained_lines text, fun line hline => not_mem_of_mem_lines hline, length_lines text⟩

/-- Lines that hold a carriage return or a form feed, or nothing at all, with ends of both kinds. -/
def mixedEntries : List (List Char × LineEnd) :=
  [(['a', '\r', 'b'], .returnFeed), ([], .feed), (['\x0c'], .feed)]

/-- Mixed ends are told apart from the characters of their lines, also in front of an open line. -/
theorem lines_inverse_mixed :
    (∀ entry ∈ mixedEntries, '\n' ∉ entry.1 ∧ entry.1.getLast? ≠ some '\r') ∧
    lines (ended mixedEntries) = [['a', '\r', 'b'], [], ['\x0c']] ∧
    lines (ended mixedEntries ++ ['\u2028']) = [['a', '\r', 'b'], [], ['\x0c'], ['\u2028']] := by
  have hentries : ∀ entry ∈ mixedEntries, '\n' ∉ entry.1 ∧ entry.1.getLast? ≠ some '\r' := by
    decide
  obtain ⟨hclosed, hopen⟩ := lines_inverse.1 mixedEntries hentries
  exact ⟨hentries, hclosed, hopen ['\u2028'] (by decide) (by decide) (by decide)⟩

end SceneLint.Text
