import Mathlib.Data.List.TakeWhile
import SceneLint.Proofs.Json.RoundTrip

/-!
# Documents that are no text, list or object

What kind of value a JSON document holds shows at its first character: texts, lists and objects
begin with a mark of their own. Every other document holds a truth value, a number or nothing, and
nothing only where it is the word for it (`parse_atom`).
-/

namespace SceneLint.Json

/-- `IsAtom v` says that a value is nothing, a truth value or a number. -/
def IsAtom : Json → Prop
  | .text _ => False
  | .list _ => False
  | .object _ => False
  | _ => True

/-- `AtomIn cs v rest` says that `v` is an atom, and null only if the text `cs` is the word for it
and `rest`. -/
structure AtomIn (cs : List Char) (v : Json) (rest : List Char) : Prop where
  atom : v.IsAtom
  null : v = .null → cs = "null".toList ++ rest

variable {limit room fuel : Nat} {cs rest : List Char} {v : Json}

/-- What is read as a word is an atom. -/
theorem atom_in_of_word (h : readWord cs = some (v, rest)) : AtomIn cs v rest := by
  obtain ⟨⟨word, value⟩, hmem, hword⟩ := List.exists_of_findSome?_eq_some h
  simp only [Option.ite_none_right_eq_some, Option.some.injEq, Prod.mk.injEq] at hword
  obtain ⟨hstart, rfl, rfl⟩ := hword
  obtain ⟨behind, rfl⟩ := List.isPrefixOf_iff_prefix.1 hstart
  rw [List.drop_left]
  simp only [words, List.mem_cons, Prod.mk.injEq, List.not_mem_nil, or_false] at hmem
  rcases hmem with ⟨rfl, rfl⟩ | ⟨rfl, rfl⟩ | ⟨rfl, rfl⟩ | ⟨rfl, rfl⟩ | ⟨rfl, rfl⟩ | ⟨rfl, rfl⟩
  · exact ⟨trivial, fun _ => rfl⟩
  all_goals exact ⟨trivial, fun hnull => by cases hnull⟩

/-- What is read as a number is whole, or it is a fraction. -/
theorem read_number_cases {negative : Bool}
    (h : readNumber limit negative cs = some (.ok (v, rest))) :
    (∃ n, v = .int n) ∨ ∃ x, v = .float x := by
  simp only [readNumber] at h
  split at h
  · cases h
  · next whole behind hwhole =>
      by_cases hplain : ((readFraction behind).1.isEmpty &&
          (readExponent (readFraction behind).2).1.isNone) = true
      · rw [if_pos hplain, wholeNumber] at h
        split at h
        · next value hvalue =>
            split at hvalue
            · cases hvalue
            · cases hvalue
              cases h
              exact .inl ⟨_, rfl⟩
        · cases h
      · rw [if_neg hplain] at h
        cases h
        exact .inr ⟨_, rfl⟩

/-- What begins with no mark of a text, list or object is read as an atom. -/
theorem read_value_atom_in {c : Char} (hquote : c ≠ '"') (hbracket : c ≠ '[')
    (hbrace : c ≠ '\x7b') (h : readValue limit room (fuel + 1) (c :: cs) = .ok (v, rest)) :
    AtomIn (c :: cs) v rest := by
  rw [read_value_atom hquote hbracket hbrace, readAtom] at h
  split at h
  · next hword =>
      cases h
      exact atom_in_of_word hword
  · split at h
    · next hsigned =>
        subst h
        have hnumber : (∃ n, v = .int n) ∨ ∃ x, v = .float x := by
          unfold readSigned at hsigned
          split at hsigned
          · exact read_number_cases hsigned
          · exact read_number_cases hsigned
        rcases hnumber with ⟨n, rfl⟩ | ⟨x, rfl⟩
        · exact ⟨trivial, fun hnull => by cases hnull⟩
        · exact ⟨trivial, fun hnull => by cases hnull⟩
    · cases h

/-- A document that begins with no space and with no mark of a text, list or object holds an atom.
It holds null only if it is the word for it, before spaces. -/
theorem parse_atom {s : String} {c : Char} (hs : s.toList = c :: cs) (hspace : isSpace c = false)
    (hquote : c ≠ '"') (hbracket : c ≠ '[') (hbrace : c ≠ '\x7b')
    (h : parseUpTo limit room s = .ok v) :
    v.IsAtom ∧ (v = .null →
      ∃ spaces, (∀ b ∈ spaces, isSpace b = true) ∧ s.toList = "null".toList ++ spaces) := by
  rw [parseUpTo, hs] at h
  split at h
  · next value hdocument =>
      cases h
      rw [readDocument] at hdocument
      split at hdocument
      · cases hdocument
      · rw [skip_cons hspace] at hdocument
        split at hdocument
        · cases hdocument
        · next value rest hread =>
            simp only at hdocument
            split at hdocument
            · next hrest =>
                cases hdocument
                have hatom := read_value_atom_in hquote hbracket hbrace hread
                refine ⟨hatom.atom, fun hnull => ⟨rest, ?_, by rw [hs, hatom.null hnull]⟩⟩
                rw [List.isEmpty_iff, skip, List.dropWhile_eq_nil_iff] at hrest
                exact hrest
            · cases hdocument
  · cases h

end SceneLint.Json
