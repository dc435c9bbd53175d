import SceneLint.Json.Printer
import SceneLint.Json.Reader

/-!
# Reading strings and numerals back

A character of a string is written in one of four ways, which `EscapedAs` lists: as itself, behind a
backslash, as the escape of one UTF-16 unit, or as the escapes of two. Each reads back as the
character (`read_string_escaped`), so a whole string does (`read_string_escapes`). A numeral reads
back as its number if what follows it does not go on with it (`read_atom_int_literal`). All of it is
ASCII.
-/

namespace SceneLint.Json

open SceneLint.Text (hexDigit hexPadded)

/-! ## Characters -/

/-- `IsAscii cs` says that every character of `cs` is an ASCII character. -/
def IsAscii (cs : List Char) : Prop :=
  ∀ c ∈ cs, c.toNat < 0x80

/-- No character is no exception. -/
@[simp] theorem is_ascii_nil : IsAscii [] := by
  simp [IsAscii]

/-- One character after the other is ASCII. -/
@[simp] theorem is_ascii_cons {c : Char} {cs : List Char} :
    IsAscii (c :: cs) ↔ c.toNat < 0x80 ∧ IsAscii cs :=
  List.forall_mem_cons

/-- Both parts of a text are ASCII. -/
@[simp] theorem is_ascii_append {cs ds : List Char} :
    IsAscii (cs ++ ds) ↔ IsAscii cs ∧ IsAscii ds :=
  List.forall_mem_append

/-- The code of a character is no surrogate. -/
theorem char_range (c : Char) : c.toNat < 0xD800 ∨ 0xDFFF < c.toNat ∧ c.toNat < 0x110000 :=
  c.valid

/-! ## Escapes of UTF-16 units -/

/-- A hexadecimal digit has its value. -/
theorem hex_value_hex_digit : ∀ n < 16, hexValue? (hexDigit n) = some n := by
  decide

/-- A hexadecimal digit is ASCII. -/
theorem hex_digit_ascii : ∀ n < 16, (hexDigit n).toNat < 0x80 := by
  decide

/-- The four digits of a unit. -/
theorem hex_padded_four (n : Nat) :
    hexPadded 4 n = [hexDigit (n / 4096 % 16), hexDigit (n / 256 % 16), hexDigit (n / 16 % 16),
      hexDigit (n % 16)] := by
  simp [hexPadded, Nat.div_div_eq_div_mul]

/-- The four digits of a unit have its value. -/
theorem hex_value4_digits {n : Nat} (h : n < 0x10000) :
    hexValue4? (hexDigit (n / 4096 % 16)) (hexDigit (n / 256 % 16)) (hexDigit (n / 16 % 16))
      (hexDigit (n % 16)) = some n := by
  have hdigit : ∀ m, hexValue? (hexDigit (m % 16)) = some (m % 16) :=
    fun m => hex_value_hex_digit _ (Nat.mod_lt m (by decide))
  simp only [hexValue4?, hdigit]
  congr 1
  omega

/-- The escape of a unit is ASCII. -/
theorem unit_escape_ascii (n : Nat) : IsAscii (unitEscape n) := by
  have hdigit : ∀ m, (hexDigit (m % 16)).toNat < 0x80 :=
    fun m => hex_digit_ascii _ (Nat.mod_lt m (by decide))
  rw [unitEscape, hex_padded_four]
  simp only [is_ascii_cons, hdigit, is_ascii_nil, and_true]
  decide

/-- `withChar c` puts `c` in front of a string that was read. -/
def withChar (c : Char) : Result (List Char) → Result (List Char)
  | .error stop => .error stop
  | .ok (cs, behind) => .ok (c :: cs, behind)

/-- The escape of a unit that opens no pair reads as the character of the unit. -/
theorem read_string_unit {n : Nat} (h : n < 0x10000) (hhigh : isHighUnit n = false)
    (opening : Nat) (c : Char) (rest : List Char) :
    readString opening (unitEscape n ++ c :: rest) =
      withChar (unitChar n) (readString opening (c :: rest)) := by
  rw [unitEscape, hex_padded_four]
  simp only [List.cons_append, List.nil_append]
  rw [readString]
  simp only [hex_value4_digits h, hhigh]
  rfl

/-- The escapes of two units that make a pair read as the character of the pair. -/
theorem read_string_pair {high low : Nat} (hhigh : isHighUnit high = true)
    (hlow : isLowUnit low = true) (opening : Nat) (c : Char) (rest : List Char) :
    readString opening (unitEscape high ++ unitEscape low ++ c :: rest) =
      withChar (pairChar high low) (readString opening (c :: rest)) := by
  have hhigh' : high < 0x10000 := by
    simp only [isHighUnit, Bool.and_eq_true, decide_eq_true_eq] at hhigh
    omega
  have hlow' : low < 0x10000 := by
    simp only [isLowUnit, Bool.and_eq_true, decide_eq_true_eq] at hlow
    omega
  rw [unitEscape, unitEscape, hex_padded_four, hex_padded_four]
  simp only [List.cons_append, List.nil_append]
  rw [readString]
  simp only [hex_value4_digits hhigh', hex_value4_digits hlow', hhigh, hlow]
  rfl

/-! ## Strings -/

/-- A character that stands for itself reads as itself. -/
theorem read_string_plain {c : Char} (hquote : c ≠ '"') (hslash : c ≠ '\\') (hc : 0x20 ≤ c.toNat)
    (opening : Nat) (rest : List Char) :
    readString opening (c :: rest) = withChar c (readString opening rest) := by
  rw [readString.eq_def]
  split
  · next h => cases h
  · next h => exact absurd (List.cons.inj h).1 hquote
  · next h => exact absurd (List.cons.inj h).1 hslash
  · next h =>
      obtain ⟨rfl, rfl⟩ := List.cons.inj h
      rw [if_neg (Nat.not_lt.2 hc)]
      rfl

/-- A short escape reads as its character. -/
theorem read_string_escape {c d : Char} (h : plainEscape? d = some c) (opening : Nat)
    (rest : List Char) :
    readString opening ('\\' :: d :: rest) = withChar c (readString opening rest) := by
  have hd : d ≠ 'u' := by
    rintro rfl
    simp [plainEscape?] at h
  rw [readString]
  · simp only [if_neg hd, h]
    rfl
  · intro _ _ _ _ _ _ heq
    exact absurd heq hd

/-- `EscapedAs c cs` says that `cs` is a way to write the character `c` in a string. -/
inductive EscapedAs (c : Char) : List Char → Prop where
  | plain (hquote : c ≠ '"') (hslash : c ≠ '\\') (hlow : 0x20 ≤ c.toNat) (hhigh : c.toNat < 0x7F) :
      EscapedAs c [c]
  | short {d : Char} (h : plainEscape? d = some c) (hd : d.toNat < 0x80) : EscapedAs c ['\\', d]
  | unit (h : c.toNat < 0x10000) : EscapedAs c (unitEscape c.toNat)
  | pair {high low : Nat} (hhigh : isHighUnit high = true) (hlow : isLowUnit low = true)
      (h : pairChar high low = c) : EscapedAs c (unitEscape high ++ unitEscape low)

/-- Every character is written in one of the four ways. -/
theorem escape_char_as (c : Char) : EscapedAs c (escapeChar c) := by
  have hshort : ∀ d, d.toNat < 0x80 → ∀ {x}, plainEscape? d = some x → c = x →
      EscapedAs c ['\\', d] := fun d hd x h hc => .short (hc ▸ h) hd
  have hcode : ∀ n, c.toNat = n → c = Char.ofNat n := by
    rintro n rfl
    exact (Char.ofNat_toNat c).symm
  rw [escapeChar]
  refine iteInduction (hshort '"' (by decide) rfl) fun hquote => ?_
  refine iteInduction (hshort '\\' (by decide) rfl) fun hslash => ?_
  refine iteInduction (hshort 'n' (by decide) rfl) fun _ => ?_
  refine iteInduction (hshort 'r' (by decide) rfl) fun _ => ?_
  refine iteInduction (hshort 't' (by decide) rfl) fun _ => ?_
  refine iteInduction (fun hc => hshort 'b' (by decide) rfl (hcode _ hc)) fun _ => ?_
  refine iteInduction (fun hc => hshort 'f' (by decide) rfl (hcode _ hc)) fun _ => ?_
  refine iteInduction (fun hc => ?_) fun _ => ?_
  · rw [Bool.and_eq_true, decide_eq_true_eq, decide_eq_true_eq] at hc
    exact .plain hquote hslash hc.1 hc.2
  refine iteInduction .unit fun hwide => ?_
  have hrange := char_range c
  refine .pair ?_ ?_ ?_
  · simp only [isHighUnit, Bool.and_eq_true, decide_eq_true_eq]
    omega
  · simp only [isLowUnit, Bool.and_eq_true, decide_eq_true_eq]
    omega
  · rw [pairChar, ← hcode _ (by omega)]

/-- However a character is written, it reads back. -/
theorem read_string_escaped {c : Char} {cs : List Char} (h : EscapedAs c cs) (opening : Nat)
    {rest : List Char} (hrest : rest ≠ []) :
    readString opening (cs ++ rest) = withChar c (readString opening rest) := by
  -- The escape of a unit is only read if something follows it: a string is never cut there.
  obtain ⟨d, rest, rfl⟩ := List.exists_cons_of_ne_nil hrest
  cases h with
  | plain hquote hslash hlow _ => exact read_string_plain hquote hslash hlow opening _
  | short h _ => exact read_string_escape h opening _
  | unit h =>
      have hrange := char_range c
      have hhigh : isHighUnit c.toNat = false := by
        simp only [isHighUnit, Bool.and_eq_false_iff, decide_eq_false_iff_not]
        omega
      have hlow : isLowUnit c.toNat = false := by
        simp only [isLowUnit, Bool.and_eq_false_iff, decide_eq_false_iff_not]
        omega
      rw [read_string_unit h hhigh, unitChar, hhigh, hlow, Char.ofNat_toNat]
      rfl
  | pair hhigh hlow h => rw [read_string_pair hhigh hlow, h]

/-- A string reads back up to its closing quote. -/
theorem read_string_escapes (opening : Nat) (cs rest : List Char) :
    readString opening (cs.flatMap escapeChar ++ '"' :: rest) = .ok (cs, rest) := by
  induction cs with
  | nil => rfl
  | cons c cs ih =>
      rw [List.flatMap_cons, List.append_assoc,
        read_string_escaped (escape_char_as c) opening (by simp), ih]
      rfl

/-- However a character is written, it is written in ASCII. -/
theorem escaped_ascii {c : Char} {cs : List Char} (h : EscapedAs c cs) : IsAscii cs := by
  cases h with
  | plain _ _ _ hhigh => exact is_ascii_cons.2 ⟨by omega, is_ascii_nil⟩
  | short _ hd => simp [hd]
  | unit => exact unit_escape_ascii _
  | pair => exact is_ascii_append.2 ⟨unit_escape_ascii _, unit_escape_ascii _⟩

/-- A string is written in ASCII. -/
theorem string_literal_ascii (s : String) : IsAscii (stringLiteral s) := by
  have hescapes : IsAscii (s.toList.flatMap escapeChar) := by
    intro c hc
    obtain ⟨d, -, hd⟩ := List.mem_flatMap.1 hc
    exact escaped_ascii (escape_char_as d) c hd
  simp [stringLiteral, hescapes]

/-! ## Numerals -/

/-- `Stops rest` says that `rest` does not go on with a numeral before it. -/
def Stops (rest : List Char) : Prop :=
  ∀ c, rest.head? = some c → isDigit c = false ∧ c ≠ '.' ∧ c ≠ 'e' ∧ c ≠ 'E'

/-- A character that is no part of a numeral stops it. -/
theorem stops_cons {c : Char} (hdigit : isDigit c = false) (hpoint : c ≠ '.') (he : c ≠ 'e')
    (hE : c ≠ 'E') (cs : List Char) : Stops (c :: cs) := by
  intro d hd
  cases hd
  exact ⟨hdigit, hpoint, he, hE⟩

/-- The digits of a number have its value. -/
theorem digits_value_to_digits (n : Nat) : digitsValue (Nat.toDigits 10 n) = n := by
  have hfold : digitsValue (Nat.toDigits 10 n) = Nat.ofDigitChars 10 (Nat.toDigits 10 n) 0 := by
    simp only [digitsValue, Nat.ofDigitChars, Nat.mul_comm]
    rfl
  rw [hfold, Nat.ofDigitChars_toDigits (by decide) (by decide)]

/-- The digits of a number are digits. -/
theorem is_digit_of_mem_to_digits {n : Nat} {c : Char} (h : c ∈ Nat.toDigits 10 n) :
    isDigit c = true :=
  Nat.isDigit_of_mem_toDigits (by decide) (by decide) h

/-- A digit is no other character. -/
theorem ne_of_is_digit {c d : Char} (hc : isDigit c = true) (hd : isDigit d = false) : c ≠ d := by
  rintro rfl
  rw [hc] at hd
  cases hd

/-- The digits of a number have a first one. -/
theorem to_digits_cons (n : Nat) :
    ∃ d ds, Nat.toDigits 10 n = d :: ds ∧ isDigit d = true ∧ ∀ c ∈ ds, isDigit c = true := by
  obtain ⟨d, ds, hdigits⟩ := List.exists_cons_of_ne_nil (Nat.toDigits_ne_nil (n := n) (b := 10))
  have hall : ∀ c ∈ d :: ds, isDigit c = true :=
    fun c hc => is_digit_of_mem_to_digits (hdigits ▸ hc)
  exact ⟨d, ds, hdigits, List.forall_mem_cons.1 hall⟩

/-- No zero starts the digits of a positive number. -/
theorem head_to_digits_ne {n : Nat} (hn : 0 < n) : (Nat.toDigits 10 n).head? ≠ some '0' := by
  induction n using Nat.strongRecOn with
  | ind n ih =>
      by_cases hsmall : n < 10
      · rw [Nat.toDigits_of_lt_base hsmall]
        have hdigit : ∀ m < 10, 0 < m → [m.digitChar].head? ≠ some '0' := by decide
        exact hdigit n hsmall hn
      · rw [Nat.toDigits_of_base_le (by decide) (Nat.not_lt.1 hsmall),
          List.head?_append, Option.or_of_isSome (by simp [Nat.toDigits_ne_nil])]
        exact ih (n / 10) (by omega) (by omega)

/-- Digits end where the numeral stops. -/
theorem span_digits {ds rest : List Char} (hds : ∀ d ∈ ds, isDigit d = true) (hrest : Stops rest) :
    (ds ++ rest).takeWhile isDigit = ds ∧ (ds ++ rest).dropWhile isDigit = rest := by
  induction ds with
  | nil =>
      cases rest with
      | nil => exact ⟨rfl, rfl⟩
      | cons c rest => simp [(hrest c rfl).1]
  | cons d ds ih =>
      rw [List.forall_mem_cons] at hds
      simp [hds.1, ih hds.2]

/-- The digits of a number are read as a whole. -/
theorem read_whole_to_digits (n : Nat) {rest : List Char} (hrest : Stops rest) :
    readWhole (Nat.toDigits 10 n ++ rest) = some (Nat.toDigits 10 n, rest) := by
  by_cases hzero : n = 0
  · subst hzero
    rfl
  · obtain ⟨d, ds, hdigits, hd, hds⟩ := to_digits_cons n
    have hne : d ≠ '0' := by
      rintro rfl
      exact head_to_digits_ne (Nat.pos_of_ne_zero hzero) (by rw [hdigits]; rfl)
    obtain ⟨htake, hdrop⟩ := span_digits hds hrest
    rw [hdigits, List.cons_append, readWhole]
    · rw [if_pos hd, htake, hdrop]
    · exact hne

/-- There is no fraction where the numeral stops. -/
theorem read_fraction_of_stops {rest : List Char} (h : Stops rest) :
    readFraction rest = ([], rest) := by
  cases rest with
  | nil => rfl
  | cons c rest =>
      rw [readFraction.eq_def]
      split
      · next heq => exact absurd (List.cons.inj heq).1 (h c rfl).2.1
      · rfl

/-- There is no exponent where the numeral stops. -/
theorem read_exponent_of_stops {rest : List Char} (h : Stops rest) :
    readExponent rest = (none, rest) := by
  cases rest with
  | nil => rfl
  | cons c rest =>
      obtain ⟨-, -, he, hE⟩ := h c rfl
      simp [readExponent, he, hE]

/-- The digits of a number read back as the number, with the sign read before them. -/
theorem read_number_to_digits {limit n : Nat} (hlimit : 0 < limit) (hn : n < Nat.pow 10 limit)
    (negative : Bool) {rest : List Char} (hrest : Stops rest) :
    readNumber limit negative (Nat.toDigits 10 n ++ rest) =
      some (.ok (.int (if negative then -(n : Int) else n), rest)) := by
  have hlength := (Nat.length_toDigits_le_iff (by decide) hlimit).2 hn
  have hwhole : wholeNumber limit negative (Nat.toDigits 10 n) =
      .ok (.int (if negative then -(n : Int) else n)) := by
    simp only [wholeNumber, Nat.not_lt.2 hlength, if_false, digits_value_to_digits]
  simp [readNumber, read_whole_to_digits n hrest, read_fraction_of_stops hrest,
    read_exponent_of_stops hrest, hwhole]

/-- A digit starts no word, also behind a sign. -/
theorem read_word_of_digit {c : Char} (h : isDigit c = true) (cs : List Char) :
    readWord (c :: cs) = none ∧ readWord ('-' :: c :: cs) = none := by
  have hne : ∀ d, isDigit d = false → d ≠ c := fun d hd => (ne_of_is_digit h hd).symm
  constructor <;>
    simp [readWord, words, hne 'n' rfl, hne 't' rfl, hne 'f' rfl, hne 'N' rfl, hne 'I' rfl,
      hne '-' rfl]

/-- The numeral of a whole number reads back as the number, unless it is too long. -/
theorem read_atom_int_literal {limit : Nat} (hlimit : 0 < limit) {n : Int}
    (hn : n.natAbs < Nat.pow 10 limit) {rest : List Char} (hrest : Stops rest) :
    readAtom limit (intLiteral n ++ rest) = .ok (.int n, rest) := by
  obtain ⟨d, ds, hdigits, hd, -⟩ := to_digits_cons n.natAbs
  have hnumber := fun negative => read_number_to_digits hlimit hn negative hrest
  obtain ⟨hword, hnegative⟩ := read_word_of_digit hd (ds ++ rest)
  rw [hdigits, List.cons_append] at hnumber
  by_cases hsign : n < 0
  · have hvalue : -(n.natAbs : Int) = n := by omega
    simp only [intLiteral, if_pos hsign, hdigits, List.cons_append, readAtom, hnegative,
      readSigned, hnumber, if_true, hvalue]
  · have hvalue : (n.natAbs : Int) = n := by omega
    have hsigned : readSigned limit (d :: (ds ++ rest)) =
        readNumber limit false (d :: (ds ++ rest)) := by
      rw [readSigned]
      intro rest' heq
      exact absurd (List.cons.inj heq).1 (ne_of_is_digit hd rfl)
    simp only [intLiteral, if_neg hsign, hdigits, List.cons_append, readAtom, hword, hsigned,
      hnumber, Bool.false_eq_true, if_false, hvalue]

/-- A numeral starts with a sign or a digit. -/
theorem int_literal_cons (n : Int) :
    ∃ c cs, intLiteral n = c :: cs ∧ ∀ d, isDigit d = false → d ≠ '-' → c ≠ d := by
  rw [intLiteral]
  split
  · exact ⟨'-', _, rfl, fun _ _ hd => hd.symm⟩
  · obtain ⟨c, cs, hdigits, hc, -⟩ := to_digits_cons n.natAbs
    exact ⟨c, cs, hdigits, fun d hd _ => ne_of_is_digit hc hd⟩

/-- A numeral is written in ASCII. -/
theorem int_literal_ascii (n : Int) : IsAscii (intLiteral n) := by
  have hdigits : IsAscii (Nat.toDigits 10 n.natAbs) := by
    intro c hc
    have hdigit := is_digit_of_mem_to_digits hc
    simp only [isDigit, Bool.and_eq_true, decide_eq_true_eq] at hdigit
    exact Nat.lt_of_le_of_lt hdigit.2 (by decide)
  rw [intLiteral]
  split
  · exact is_ascii_cons.2 ⟨by decide, hdigits⟩
  · exact hdigits

end SceneLint.Json
