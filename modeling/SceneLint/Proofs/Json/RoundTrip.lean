import SceneLint.Proofs.Json.Fields
import SceneLint.Proofs.Json.Literals
import SceneLint.Proofs.Json.Nesting

/-!
# Reading a written value back

`IsPlain` values have no floating-point number in them and name no field twice. In a layout whose
texts are blanks and one comma between parts (`Layout.Spaced`), a plain value is written in ASCII
(`write_ascii`) and reads back as itself, whatever blanks follow it (`parse_up_to_write`), for a
reader with room for the lists and objects that lie in each other in it. The proof goes along the
value: `Reads` says of one value that it reads back at every depth and before everything that stops
a numeral, and each constructor carries it from the parts to the whole. `formatted_round_trip` says
what this means for the text printed for a value.
-/

namespace SceneLint.Json

/-- `IsPlain v` says that `v` holds no floating-point number, and that no object in it has two
fields of one name. -/
inductive IsPlain : Json → Prop where
  | null : IsPlain .null
  | bool (b : Bool) : IsPlain (.bool b)
  | int (n : Int) : IsPlain (.int n)
  | text (s : String) : IsPlain (.text s)
  | list {items : List Json} (h : ∀ item ∈ items, IsPlain item) : IsPlain (.list items)
  | object {fields : List (String × Json)} (hnames : (fields.map (·.1)).Nodup)
      (h : ∀ field ∈ fields, IsPlain field.2) : IsPlain (.object fields)

/-! ## Blanks -/

/-- `Layout.Spaced l` says that `l` has one comma between parts and only blanks otherwise. -/
structure Layout.Spaced (l : Layout) : Prop where
  opening (depth : Nat) : ∀ c ∈ l.opening depth, isSpace c = true
  between (depth : Nat) : ∃ cs, l.between depth = ',' :: cs ∧ ∀ c ∈ cs, isSpace c = true
  closing (depth : Nat) : ∀ c ∈ l.closing depth, isSpace c = true

/-- A new line holds only blanks. -/
theorem Layout.newline_spaced (depth : Nat) : ∀ c ∈ newline depth, isSpace c = true := by
  rw [newline, List.forall_mem_cons]
  refine ⟨rfl, ?_⟩
  intro c hc
  rw [List.eq_of_mem_replicate hc]
  rfl

/-- The layout over several lines is spaced. -/
theorem Layout.indented_spaced : indented.Spaced where
  opening depth := newline_spaced (depth + 1)
  between depth := ⟨newline (depth + 1), rfl, newline_spaced (depth + 1)⟩
  closing := newline_spaced

/-- There are four blanks. -/
theorem space_cases {c : Char} (h : isSpace c = true) :
    c = ' ' ∨ c = '\t' ∨ c = '\n' ∨ c = '\r' := by
  simpa [isSpace, or_assoc] using h

/-- Blanks in front are skipped. -/
theorem skip_append {blanks : List Char} (h : ∀ c ∈ blanks, isSpace c = true) (cs : List Char) :
    skip (blanks ++ cs) = skip cs := by
  rw [skip, skip, List.dropWhile_append_of_pos h]

/-- Nothing is skipped where no blank stands. -/
theorem skip_cons {c : Char} (h : isSpace c = false) (cs : List Char) :
    skip (c :: cs) = c :: cs := by
  rw [skip, List.dropWhile_cons_of_neg (by simp [h])]

/-- Blanks stop a numeral if what follows them does. -/
theorem stops_of_space {blanks : List Char} (h : ∀ c ∈ blanks, isSpace c = true) {cs : List Char}
    (hcs : Stops cs) : Stops (blanks ++ cs) := by
  cases blanks with
  | nil => exact hcs
  | cons c blanks =>
      obtain rfl | rfl | rfl | rfl := space_cases (h c List.mem_cons_self) <;>
        exact stops_cons rfl (by decide) (by decide) (by decide) _

/-- Blanks are ASCII. -/
theorem is_ascii_of_space {blanks : List Char} (h : ∀ c ∈ blanks, isSpace c = true) :
    IsAscii blanks := by
  intro c hc
  obtain rfl | rfl | rfl | rfl := space_cases (h c hc) <;> decide

variable {l : Layout} {limit room : Nat}

/-- The end of a list or an object stops a numeral. -/
theorem stops_closing (hl : l.Spaced) (depth : Nat) {c : Char} (hc : c = ']' ∨ c = '\x7d')
    (rest : List Char) : Stops (l.closing depth ++ c :: rest) := by
  refine stops_of_space (hl.closing depth) ?_
  obtain rfl | rfl := hc <;> exact stops_cons rfl (by decide) (by decide) (by decide) _

/-- What stands between two parts stops a numeral. -/
theorem stops_between (hl : l.Spaced) (depth : Nat) (rest : List Char) :
    Stops (l.between depth ++ rest) := by
  obtain ⟨blanks, hbetween, -⟩ := hl.between depth
  rw [hbetween]
  exact stops_cons rfl (by decide) (by decide) (by decide) _

/-! ## The start of a value -/

/-- `Leads cs` says that `cs` starts with a character that is neither a blank nor the end of a list
or an object. -/
def Leads (cs : List Char) : Prop :=
  ∃ c rest, cs = c :: rest ∧ isSpace c = false ∧ c ≠ ']' ∧ c ≠ '\x7d'

/-- The start of a text is the start of what follows with it. -/
theorem Leads.append {cs : List Char} (h : Leads cs) (rest : List Char) : Leads (cs ++ rest) := by
  obtain ⟨c, cs, rfl, hc⟩ := h
  exact ⟨c, cs ++ rest, rfl, hc⟩

/-- Nothing is skipped in front of a value. -/
theorem Leads.skip {cs : List Char} (h : Leads cs) (rest : List Char) :
    skip (cs ++ rest) = cs ++ rest := by
  obtain ⟨c, cs, rfl, hspace, -, -⟩ := h
  exact skip_cons hspace _

/-- Blanks in front of a value are skipped. -/
theorem Leads.skip_blanks {cs blanks : List Char} (h : Leads cs)
    (hblanks : ∀ c ∈ blanks, isSpace c = true) (rest : List Char) :
    Json.skip (blanks ++ (cs ++ rest)) = cs ++ rest := by
  rw [skip_append hblanks, h.skip]

/-- A numeral starts a value. -/
theorem int_literal_leads (n : Int) : Leads (intLiteral n) := by
  obtain ⟨c, cs, hcs, hne⟩ := int_literal_cons n
  have hspace : isSpace c = false := by
    simp [isSpace, hne ' ' rfl, hne '\t' rfl, hne '\n' rfl, hne '\r' rfl]
  exact ⟨c, cs, hcs, hspace, hne _ rfl (by decide), hne _ rfl (by decide)⟩

/-- A string starts a value. -/
theorem string_literal_leads (s : String) : Leads (stringLiteral s) :=
  ⟨'"', _, rfl, rfl, by decide, by decide⟩

/-! ## One value -/

/-- `Reads l limit room v` says that `v`, written in the layout `l`, starts like a value and reads
back as `v` at every depth, with fuel for twice its length and before everything that stops a
numeral. -/
structure Reads (l : Layout) (limit room : Nat) (v : Json) : Prop where
  leads (depth : Nat) : Leads (write l depth v)
  read {depth fuel : Nat} (hfuel : 2 * (write l depth v).length ≤ fuel) {rest : List Char}
    (hrest : Stops rest) : readValue limit room fuel (write l depth v ++ rest) = .ok (v, rest)

/-- A written value has a character, so there is fuel for at least one step. -/
theorem Reads.of_succ {v : Json} (hleads : ∀ depth, Leads (write l depth v))
    (hread : ∀ depth fuel rest, 2 * (write l depth v).length ≤ fuel + 1 → Stops rest →
      readValue limit room (fuel + 1) (write l depth v ++ rest) = .ok (v, rest)) :
    Reads l limit room v where
  leads := hleads
  read := by
    intro depth fuel hfuel rest hrest
    obtain ⟨c, cs, hcs, -⟩ := hleads depth
    have hpos : 0 < (write l depth v).length := by simp [hcs]
    obtain ⟨fuel, rfl⟩ : ∃ n, fuel = n + 1 := ⟨fuel - 1, by omega⟩
    exact hread depth fuel rest hfuel hrest

/-- What starts with no quote, bracket or brace is a word or a number. -/
theorem read_value_atom {c : Char} (hquote : c ≠ '"') (hbracket : c ≠ '[') (hbrace : c ≠ '\x7b')
    (fuel : Nat) (cs : List Char) :
    readValue limit room (fuel + 1) (c :: cs) = readAtom limit (c :: cs) := by
  rw [readValue.eq_def]
  simp only
  split
  · next heq => exact absurd (List.cons.inj heq).1 hquote
  · next heq => exact absurd (List.cons.inj heq).1 hbracket
  · next heq => exact absurd (List.cons.inj heq).1 hbrace
  · rfl

/-- A whole number reads back, unless its numeral is too long. -/
theorem reads_int (hlimit : 0 < limit) {n : Int} (hn : n.natAbs < Nat.pow 10 limit) :
    Reads l limit room (.int n) := by
  refine .of_succ (fun _ => int_literal_leads n) ?_
  intro depth fuel rest _ hrest
  obtain ⟨c, cs, hcs, hne⟩ := int_literal_cons n
  have hatom := read_atom_int_literal hlimit hn hrest
  rw [hcs, List.cons_append] at hatom
  rw [write, hcs, List.cons_append, read_value_atom (hne _ rfl (by decide))
    (hne _ rfl (by decide)) (hne _ rfl (by decide)), hatom]

/-- A text reads back. -/
theorem reads_text (s : String) : Reads l limit room (.text s) := by
  refine .of_succ (fun _ => string_literal_leads s) ?_
  intro depth fuel rest _ _
  have hstring := fun opening => read_string_escapes opening s.toList rest
  simp [write, stringLiteral, readValue, hstring]

/-! ## Lists -/

/-- The last item, before the closing bracket. -/
theorem read_items_last {fuel : Nat} {cs rest behind : List Char} {item : Json}
    (hvalue : readValue limit room fuel cs = .ok (item, rest)) (hskip : skip rest = ']' :: behind) :
    readItems limit room (fuel + 1) cs = .ok ([item], behind) := by
  simp only [readItems, hvalue, hskip]

/-- One item before others. -/
theorem read_items_next {fuel : Nat} {cs rest others behind : List Char} {item : Json}
    {items : List Json} (hvalue : readValue limit room fuel cs = .ok (item, rest))
    (hskip : skip rest = ',' :: others)
    (hitems : readItems limit room fuel (skip others) = .ok (items, behind)) :
    readItems limit room (fuel + 1) cs = .ok (item :: items, behind) := by
  simp only [readItems, hvalue, hskip, hitems]

/-- The items of a list read back if each of them does. -/
theorem read_items_write (hl : l.Spaced) {item : Json} (hitem : Reads l limit room item)
    {items : List Json} (hitems : ∀ other ∈ items, Reads l limit room other) {depth fuel : Nat}
    (hfuel : 2 * (write l (depth + 1) item).length + 2 * (writeItems l depth items).length < fuel)
    (rest : List Char) :
    readItems limit room fuel (write l (depth + 1) item ++
      (writeItems l depth items ++ (l.closing depth ++ ']' :: rest))) =
        .ok (item :: items, rest) := by
  obtain ⟨fuel, rfl⟩ : ∃ n, fuel = n + 1 := ⟨fuel - 1, by omega⟩
  -- The induction is on the items behind the first one; each takes its own share of the fuel, and
  -- the comma before it pays for the step.
  induction items generalizing item fuel with
  | nil =>
      rw [writeItems, List.nil_append]
      refine read_items_last (hitem.read (by omega) (stops_closing hl depth (.inl rfl) rest)) ?_
      rw [skip_append (hl.closing depth), skip_cons rfl]
  | cons next items ih =>
      rw [List.forall_mem_cons] at hitems
      obtain ⟨blanks, hbetween, hblanks⟩ := hl.between depth
      have hlength : (writeItems l depth (next :: items)).length =
          blanks.length + 1 + (write l (depth + 1) next).length +
            (writeItems l depth items).length := by
        simp only [writeItems, hbetween, List.length_append, List.length_cons]
      obtain ⟨fuel, rfl⟩ : ∃ n, fuel = n + 1 := ⟨fuel - 1, by omega⟩
      have hstops := stops_between hl depth (write l (depth + 1) next ++
        (writeItems l depth items ++ (l.closing depth ++ ']' :: rest)))
      simp only [hbetween, List.cons_append] at hstops
      simp only [writeItems, hbetween, List.append_assoc, List.cons_append]
      refine read_items_next (hitem.read (by omega) hstops) (skip_cons rfl _) ?_
      rw [(hitems.1.leads (depth + 1)).skip_blanks hblanks]
      exact ih hitems.1 hitems.2 fuel (by omega)

/-- A list with items starts with its bracket and goes on to the first item. -/
theorem read_value_list {fuel : Nat} {cs behind : List Char} {items : List Json}
    (hleads : Leads (skip cs))
    (hitems : readItems limit room fuel (skip cs) = .ok (items, behind)) :
    readValue limit (room + 1) (fuel + 1) ('[' :: cs) = .ok (.list items, behind) := by
  obtain ⟨c, cs', hskip, -, hbracket, -⟩ := hleads
  rw [hskip] at hitems
  simp only [readValue, hskip]
  split
  · next heq => exact absurd (List.cons.inj heq).1 hbracket
  · rw [hitems]

/-- A list reads back if each of its items does. -/
theorem reads_list (hl : l.Spaced) {items : List Json}
    (hitems : ∀ item ∈ items, Reads l limit room item) :
    Reads l limit (room + 1) (.list items) := by
  cases items with
  | nil =>
      exact .of_succ (fun _ => ⟨'[', _, rfl, rfl, by decide, by decide⟩) fun _ _ _ _ _ => rfl
  | cons item items =>
      rw [List.forall_mem_cons] at hitems
      refine .of_succ (fun _ => ⟨'[', _, rfl, rfl, by decide, by decide⟩) ?_
      intro depth fuel rest hfuel _
      simp only [write, List.length_append, List.length_cons, List.length_nil] at hfuel
      have hleads := hitems.1.leads (depth + 1)
      simp only [write, List.cons_append, List.append_assoc, List.nil_append]
      apply read_value_list <;> rw [hleads.skip_blanks (hl.opening depth)]
      · exact hleads.append _
      · exact read_items_write hl hitems.1 hitems.2 (by omega) rest

/-! ## Objects -/

/-- The last field, before the closing brace. -/
theorem read_fields_last {fuel : Nat} {name : String} {cs rest behind : List Char} {value : Json}
    (hspace : skip (' ' :: cs) = cs) (hvalue : readValue limit room fuel cs = .ok (value, rest))
    (hskip : skip rest = '\x7d' :: behind) :
    readFields limit room (fuel + 1) (stringLiteral name ++ ':' :: ' ' :: cs) =
      .ok ([(name, value)], behind) := by
  have hname := fun opening => read_string_escapes opening name.toList (':' :: ' ' :: cs)
  have hcolon : skip (':' :: ' ' :: cs) = ':' :: ' ' :: cs := skip_cons rfl _
  simp [stringLiteral, readFields, hname, hcolon, hspace, hvalue, hskip]

/-- One field before others. -/
theorem read_fields_next {fuel : Nat} {name : String} {cs rest others behind : List Char}
    {value : Json} {fields : List (String × Json)} (hspace : skip (' ' :: cs) = cs)
    (hvalue : readValue limit room fuel cs = .ok (value, rest)) (hskip : skip rest = ',' :: others)
    (hfields : readFields limit room fuel (skip others) = .ok (fields, behind)) :
    readFields limit room (fuel + 1) (stringLiteral name ++ ':' :: ' ' :: cs) =
      .ok ((name, value) :: fields, behind) := by
  have hname := fun opening => read_string_escapes opening name.toList (':' :: ' ' :: cs)
  have hcolon : skip (':' :: ' ' :: cs) = ':' :: ' ' :: cs := skip_cons rfl _
  simp [stringLiteral, readFields, hname, hcolon, hspace, hvalue, hskip, hfields]

/-- The fields of an object read back if the value of each of them does. -/
theorem read_fields_write (hl : l.Spaced) (name : String) {value : Json}
    (hvalue : Reads l limit room value) {fields : List (String × Json)}
    (hfields : ∀ field ∈ fields, Reads l limit room field.2) {depth fuel : Nat}
    (hfuel : 2 * (write l (depth + 1) value).length + 2 * (writeFields l depth fields).length <
      fuel) (rest : List Char) :
    readFields limit room fuel (stringLiteral name ++ ':' :: ' ' :: (write l (depth + 1) value ++
      (writeFields l depth fields ++ (l.closing depth ++ '\x7d' :: rest)))) =
        .ok ((name, value) :: fields, rest) := by
  obtain ⟨fuel, rfl⟩ : ∃ n, fuel = n + 1 := ⟨fuel - 1, by omega⟩
  have hblank : ∀ c ∈ [' '], isSpace c = true := List.forall_mem_singleton.2 rfl
  induction fields generalizing name value fuel with
  | nil =>
      rw [writeFields, List.nil_append]
      refine read_fields_last ((hvalue.leads (depth + 1)).skip_blanks hblank _)
        (hvalue.read (by omega) (stops_closing hl depth (.inr rfl) rest)) ?_
      rw [skip_append (hl.closing depth), skip_cons rfl]
  | cons next fields ih =>
      obtain ⟨other, next⟩ := next
      rw [List.forall_mem_cons] at hfields
      obtain ⟨blanks, hbetween, hblanks⟩ := hl.between depth
      have hlength : (writeFields l depth ((other, next) :: fields)).length =
          blanks.length + 1 + (stringLiteral other).length + 2 +
            (write l (depth + 1) next).length + (writeFields l depth fields).length := by
        simp only [writeFields, hbetween, List.length_append, List.length_cons, List.length_nil]
      obtain ⟨fuel, rfl⟩ : ∃ n, fuel = n + 1 := ⟨fuel - 1, by omega⟩
      have hstops := stops_between hl depth (stringLiteral other ++ ':' :: ' ' ::
        (write l (depth + 1) next ++
          (writeFields l depth fields ++ (l.closing depth ++ '\x7d' :: rest))))
      simp only [hbetween, List.cons_append] at hstops
      simp only [writeFields, hbetween, List.append_assoc, List.cons_append, List.nil_append]
      refine read_fields_next ((hvalue.leads (depth + 1)).skip_blanks hblank _)
        (hvalue.read (by omega) hstops) (skip_cons rfl _) ?_
      rw [(string_literal_leads other).skip_blanks hblanks]
      have hnext : Reads l limit room next := hfields.1
      exact ih other hnext hfields.2 fuel (by omega)

/-- An object with fields starts with its brace and goes on to the first name. -/
theorem read_value_object {fuel : Nat} {cs behind : List Char} {fields : List (String × Json)}
    (hleads : Leads (skip cs)) (hnames : (fields.map (·.1)).Nodup)
    (hfields : readFields limit room fuel (skip cs) = .ok (fields, behind)) :
    readValue limit (room + 1) (fuel + 1) ('\x7b' :: cs) = .ok (.object fields, behind) := by
  obtain ⟨c, cs', hskip, -, -, hbrace⟩ := hleads
  rw [hskip] at hfields
  simp only [readValue, hskip]
  split
  · next heq => exact absurd (List.cons.inj heq).1 hbrace
  · simp only [hfields, collect_fields_of_nodup hnames]

/-- An object that names no field twice reads back if the value of each field does. -/
theorem reads_object (hl : l.Spaced) {fields : List (String × Json)}
    (hnames : (fields.map (·.1)).Nodup) (hfields : ∀ field ∈ fields, Reads l limit room field.2) :
    Reads l limit (room + 1) (.object fields) := by
  cases fields with
  | nil =>
      exact .of_succ (fun _ => ⟨'\x7b', _, rfl, rfl, by decide, by decide⟩) fun _ _ _ _ _ => rfl
  | cons field fields =>
      obtain ⟨name, value⟩ := field
      rw [List.forall_mem_cons] at hfields
      have hvalue : Reads l limit room value := hfields.1
      refine .of_succ (fun _ => ⟨'\x7b', _, rfl, rfl, by decide, by decide⟩) ?_
      intro depth fuel rest hfuel _
      simp only [write, List.length_append, List.length_cons, List.length_nil] at hfuel
      have hleads := string_literal_leads name
      simp only [write, List.cons_append, List.append_assoc, List.nil_append]
      refine read_value_object ?_ hnames ?_ <;> rw [hleads.skip_blanks (hl.opening depth)]
      · exact hleads.append _
      · exact read_fields_write hl name hvalue hfields.2 (by omega) rest

/-! ## Whole values -/

/-- Items fit if each of them does. -/
theorem fit_items_iff {items : List Json} :
    fitItems limit items = true ↔ ∀ item ∈ items, item.fits limit = true := by
  induction items with
  | nil => simp [fitItems]
  | cons item items ih => simp [fitItems, ih]

/-- Fields fit if the value of each of them does. -/
theorem fit_fields_iff {fields : List (String × Json)} :
    fitFields limit fields = true ↔ ∀ field ∈ fields, field.2.fits limit = true := by
  induction fields with
  | nil => simp [fitFields]
  | cons field fields ih => simp only [fitFields, Bool.and_eq_true, ih, List.forall_mem_cons]

/-- A plain value without a long numeral reads back, if there is room for it. -/
theorem reads_plain (hl : l.Spaced) (hlimit : 0 < limit) {v : Json} (hv : v.IsPlain)
    (hfits : v.fits limit = true) (hroom : v.nesting ≤ room) : Reads l limit room v := by
  induction hv generalizing room with
  | null => exact .of_succ (fun _ => ⟨'n', _, rfl, rfl, by decide, by decide⟩) fun _ _ _ _ _ => rfl
  | bool b =>
      cases b with
      | false =>
          exact .of_succ (fun _ => ⟨'f', _, rfl, rfl, by decide, by decide⟩) fun _ _ _ _ _ => rfl
      | true =>
          exact .of_succ (fun _ => ⟨'t', _, rfl, rfl, by decide, by decide⟩) fun _ _ _ _ _ => rfl
  | int n => exact reads_int hlimit (by simpa [fits] using hfits)
  | text s => exact reads_text s
  | @list items _ ih =>
      rw [fits, fit_items_iff] at hfits
      obtain ⟨room, rfl⟩ : ∃ n, room = n + 1 :=
        Nat.exists_eq_add_of_le' (Nat.le_of_add_left_le hroom)
      have hrooms := nesting_items_le_iff.1 (Nat.le_of_succ_le_succ hroom)
      exact reads_list hl fun item hitem => ih item hitem (hfits item hitem) (hrooms item hitem)
  | @object fields hnames _ ih =>
      rw [fits, fit_fields_iff] at hfits
      obtain ⟨room, rfl⟩ : ∃ n, room = n + 1 :=
        Nat.exists_eq_add_of_le' (Nat.le_of_add_left_le hroom)
      have hrooms := nesting_fields_le_iff.1 (Nat.le_of_succ_le_succ hroom)
      exact reads_object hl hnames fun field hfield =>
        ih field hfield (hfits field hfield) (hrooms field hfield)

/-- What stands between two parts is ASCII. -/
theorem Layout.Spaced.between_ascii (hl : l.Spaced) (depth : Nat) : IsAscii (l.between depth) := by
  obtain ⟨blanks, hbetween, hblanks⟩ := hl.between depth
  rw [hbetween, is_ascii_cons]
  exact ⟨by decide, is_ascii_of_space hblanks⟩

/-- Items are written in ASCII if each of them is. -/
theorem write_items_ascii (hl : l.Spaced) {items : List Json}
    (h : ∀ item ∈ items, ∀ depth, IsAscii (write l depth item)) (depth : Nat) :
    IsAscii (writeItems l depth items) := by
  induction items with
  | nil => exact is_ascii_nil
  | cons item items ih =>
      rw [List.forall_mem_cons] at h
      simp only [writeItems, is_ascii_append]
      exact ⟨⟨hl.between_ascii depth, h.1 (depth + 1)⟩, ih h.2⟩

/-- Fields are written in ASCII if the value of each of them is. -/
theorem write_fields_ascii (hl : l.Spaced) {fields : List (String × Json)}
    (h : ∀ field ∈ fields, ∀ depth, IsAscii (write l depth field.2)) (depth : Nat) :
    IsAscii (writeFields l depth fields) := by
  induction fields with
  | nil => exact is_ascii_nil
  | cons field fields ih =>
      rw [List.forall_mem_cons] at h
      have hmark : IsAscii [':', ' '] := by simp
      simp only [writeFields, is_ascii_append]
      exact ⟨⟨⟨⟨hl.between_ascii depth, string_literal_ascii field.1⟩, hmark⟩, h.1 (depth + 1)⟩,
        ih h.2⟩

/-- A plain value is written in ASCII. -/
theorem write_ascii (hl : l.Spaced) {v : Json} (hv : v.IsPlain) (depth : Nat) :
    IsAscii (write l depth v) := by
  have hopening : ∀ depth, IsAscii (l.opening depth) :=
    fun depth => is_ascii_of_space (hl.opening depth)
  have hclosing : ∀ depth, IsAscii (l.closing depth) :=
    fun depth => is_ascii_of_space (hl.closing depth)
  induction hv generalizing depth with
  | null => simp [write]
  | bool b => cases b <;> simp [write]
  | int n => exact int_literal_ascii n
  | text s => exact string_literal_ascii s
  | @list items _ ih =>
      cases items with
      | nil => simp [write]
      | cons item items =>
          rw [List.forall_mem_cons] at ih
          simp [write, hopening, hclosing, ih.1, write_items_ascii hl ih.2]
  | @object fields _ _ ih =>
      cases fields with
      | nil => simp [write]
      | cons field fields =>
          rw [List.forall_mem_cons] at ih
          simp [write, hopening, hclosing, ih.1, string_literal_ascii,
            write_fields_ascii hl ih.2]

/-! ## Documents -/

/-- A text with a plain value, and only blanks behind it, reads as that value, if there is room for
it. -/
theorem parse_up_to_write (hl : l.Spaced) (hlimit : 0 < limit) {v : Json} (hv : v.IsPlain)
    (hfits : v.fits limit = true) (hroom : v.nesting ≤ room) (blanks : List Char)
    (hblanks : ∀ c ∈ blanks, isSpace c = true) :
    parseUpTo limit room (String.ofList (write l 0 v ++ blanks)) = .ok v := by
  have hreads := reads_plain hl hlimit hv hfits hroom
  have hstops : Stops blanks := by
    have hnil : Stops [] := by simp [Stops]
    simpa using stops_of_space hblanks hnil
  have hskip : skip blanks = [] := by
    have happend := skip_append hblanks []
    rwa [List.append_nil] at happend
  have hvalue : readValue limit room (2 * (write l 0 v ++ blanks).length + 2)
      (write l 0 v ++ blanks) = .ok (v, blanks) :=
    hreads.read (by simp only [List.length_append]; omega) hstops
  obtain ⟨c, cs, hcs, -⟩ := hreads.leads 0
  have hmark : c.toNat ≠ 0xFEFF := by
    have hascii := write_ascii hl hv 0 c (by simp [hcs])
    omega
  have hdocument : readDocument limit room (write l 0 v ++ blanks) = .ok v := by
    have hfront := (hreads.leads 0).skip blanks
    rw [hcs, List.cons_append] at hvalue hfront ⊢
    simp only [readDocument, if_neg hmark, hfront, hvalue, hskip, List.isEmpty_nil, if_true]
  rw [parseUpTo, String.toList_ofList, hdocument]

/-- A text with a plain value, and only blanks behind it, reads as that value where nesting is not
bounded. -/
theorem parse_with_write (hl : l.Spaced) (hlimit : 0 < limit) {v : Json} (hv : v.IsPlain)
    (hfits : v.fits limit = true) (blanks : List Char)
    (hblanks : ∀ c ∈ blanks, isSpace c = true) :
    parseWith limit (String.ofList (write l 0 v ++ blanks)) = .ok v := by
  have hroom : v.nesting ≤ (String.ofList (write l 0 v ++ blanks)).length := by
    rw [String.length_ofList, List.length_append]
    exact Nat.le_add_right_of_le (nesting_le_length l v 0)
  exact parse_up_to_write hl hlimit hv hfits hroom blanks hblanks

/-- A document always has a container at its top, and is plain if the value is. -/
theorem IsPlain.wrapped {v : Json} (h : v.IsPlain) : v.wrapped.IsPlain := by
  rw [Json.wrapped]
  split
  · exact h
  · exact .object (by simp) (by simpa using h)

/-- Wrapping adds no number. -/
theorem fits_wrapped (v : Json) : v.wrapped.fits limit = v.fits limit := by
  rw [wrapped]
  split
  · rfl
  · simp [fits, fitFields]

/-- There is no text for a value if a numeral of it does not fit, or if there is no room for it. -/
theorem formatted_ne_ok {v : Json} {room : Nat}
    (h : v.fits LongNumeral.digitLimit = false ∨ room < v.wrapped.nesting) (text : String) :
    v.formatted room ≠ .ok text := by
  intro htext
  rw [formatted] at htext
  split at htext
  · next hfault =>
      obtain ⟨hfits, hroom⟩ := (fault?_eq_none_iff _).1 hfault
      rw [fits_wrapped] at hfits
      rcases h with hlong | hdeep
      · rw [hfits] at hlong
        cases hlong
      · omega
  · cases htext

/-- The text printed for a plain value is ASCII, and reads back as the value itself if it is a list
or an object, and else as the object that has it as its only field; all it takes is a reader with
room for the value. There is such a text if the numerals of the value fit and there is room to write
it. Else there is none, and the fault says what is in the way. -/
theorem formatted_round_trip {v : Json} (hv : v.IsPlain) (room : Nat) :
    (v.fits LongNumeral.digitLimit = true → v.wrapped.nesting ≤ room →
      ∃ text, v.formatted room = .ok text ∧ (∀ c ∈ text.toList, c.toNat < 0x80) ∧
        ∀ room', v.wrapped.nesting ≤ room' →
          (v.isContainer = true →
            parseUpTo LongNumeral.digitLimit room' text = .ok v) ∧
          (v.isContainer = false →
            parseUpTo LongNumeral.digitLimit room' text = .ok (.object [("value", v)]))) ∧
    (v.fits LongNumeral.digitLimit = false ∨ room < v.wrapped.nesting →
      ∃ fault, v.formatted room = .error fault ∧
        (fault = .longNumeral → v.fits LongNumeral.digitLimit = false) ∧
        (fault = .tooDeep → room < v.wrapped.nesting)) := by
  constructor
  · intro hfits hroom
    have hfault : v.wrapped.fault? LongNumeral.digitLimit room = none :=
      (fault?_eq_none_iff _).2 ⟨(fits_wrapped v).trans hfits, hroom⟩
    refine ⟨v.document, by rw [formatted, hfault], ?_, fun room' hroom' => ?_⟩
    · rw [document, render, String.toList_ofList]
      exact write_ascii Layout.indented_spaced hv.wrapped 0
    · have hread : parseUpTo LongNumeral.digitLimit room' v.document = .ok v.wrapped := by
        have hparse := parse_up_to_write Layout.indented_spaced (by decide) hv.wrapped
          ((fits_wrapped v).trans hfits) hroom' [] (by simp)
        rwa [List.append_nil] at hparse
      constructor <;> intro hcontainer <;> simp [hread, wrapped, hcontainer]
  · intro hnot
    cases hfault : v.wrapped.fault? LongNumeral.digitLimit room with
    | none => exact absurd (by rw [formatted, hfault]) (formatted_ne_ok hnot v.document)
    | some fault =>
        have htells := fault?_tells LongNumeral.digitLimit v.wrapped room
        rw [hfault, fits_wrapped] at htells
        refine ⟨fault, by rw [formatted, hfault], ?_, ?_⟩
        · rintro rfl
          exact htells
        · rintro rfl
          exact htells

/-- A list of a text with a quote, a backslash and a character outside the first plane, and of an
object with an empty list in it, is printed and reads back. -/
theorem formatted_round_trip_nested :
    ∃ text, (Json.list [.text "\"é\\𝄞", .object [("a", .int (-1)), ("b", .list [])]]).formatted 3 =
        .ok text ∧ (∀ c ∈ text.toList, c.toNat < 0x80) ∧
      parseUpTo LongNumeral.digitLimit 3 text =
        .ok (.list [.text "\"é\\𝄞", .object [("a", .int (-1)), ("b", .list [])]]) := by
  have hobject : IsPlain (.object [("a", .int (-1)), ("b", .list [])]) := by
    refine .object (by decide) ?_
    simp only [List.forall_mem_cons]
    exact ⟨.int _, .list (by simp), by simp⟩
  have hplain : IsPlain (.list [.text "\"é\\𝄞", .object [("a", .int (-1)), ("b", .list [])]]) := by
    refine .list ?_
    simp only [List.forall_mem_cons]
    exact ⟨.text _, hobject, by simp⟩
  obtain ⟨text, htext, hascii, hparse⟩ :=
    (formatted_round_trip hplain 3).1 (by decide +kernel) (by decide)
  exact ⟨text, htext, hascii, (hparse 3 (by decide)).1 rfl⟩

/-- A power of ten that has one digit more than the limit does not fit. -/
theorem not_fits_power (limit : Nat) :
    (Json.int (.ofNat (Nat.pow 10 limit))).fits limit = false := by
  rw [fits]
  exact decide_eq_false (Nat.lt_irrefl _)

/-- `lists n` is the empty list in `n` lists. -/
def lists : Nat → Json
  | 0 => .list []
  | n + 1 => .list [lists n]

/-- Lists in each other are a plain value. -/
theorem lists_plain (n : Nat) : (lists n).IsPlain := by
  induction n with
  | zero => exact .list (by simp)
  | succ n ih => exact .list (by simpa using ih)

/-- Lists in each other hold no numeral. -/
theorem fits_lists (n : Nat) : (lists n).fits limit = true := by
  induction n with
  | zero => rfl
  | succ n ih => simp [lists, fits, fitItems, ih]

/-- Lists in each other are one deeper than there are lists around the innermost. -/
theorem nesting_lists (n : Nat) : (lists n).nesting = n + 1 := by
  induction n with
  | zero => rfl
  | succ n ih => simp [lists, nesting, nestingItems, ih]

/-- A whole number with one digit more than the limit, which is 4300, is a plain value, and has no
text, however much room there is; and however much room there is, there are lists in each other that
have none. -/
theorem formatted_limits :
    (LongNumeral.digitLimit = 4300 ∧
      IsPlain (.int (.ofNat (Nat.pow 10 LongNumeral.digitLimit))) ∧
      ∀ room text,
        (Json.int (.ofNat (Nat.pow 10 LongNumeral.digitLimit))).formatted room ≠ .ok text) ∧
    ∀ room, (lists room).IsPlain ∧ (lists room).fits LongNumeral.digitLimit = true ∧
      ∀ text, (lists room).formatted room ≠ .ok text := by
  refine ⟨⟨rfl, .int _, fun room text => formatted_ne_ok (.inl (not_fits_power _)) text⟩,
    fun room => ⟨lists_plain room, fits_lists room, fun text => formatted_ne_ok (.inr ?_) text⟩⟩
  have hcontainer : (lists room).isContainer = true := by cases room <;> rfl
  rw [wrapped, if_pos hcontainer, nesting_lists]
  exact Nat.lt_succ_self room

end SceneLint.Json
