import SceneLint.Json.Printer

/-!
# How deep a value is

`nesting` counts the lists and objects that lie in each other in a value. Together with the length
of the numerals it decides whether the value can be written: `fault?_tells` says what every outcome
of the look for a fault means, and there is none exactly if the numerals fit and there is room
(`fault?_eq_none_iff`). A value is never deeper than its text is long (`nesting_le_length`), so a
reader with room for as much as the text has characters is never short of it.
-/

namespace SceneLint.Json

/-- Items are as deep as the deepest of them. -/
theorem nesting_items_le_iff {items : List Json} {room : Nat} :
    nestingItems items ≤ room ↔ ∀ item ∈ items, item.nesting ≤ room := by
  induction items with
  | nil => simp [nestingItems]
  | cons item items ih => simp only [nestingItems, Nat.max_le, ih, List.forall_mem_cons]

/-- Fields are as deep as the deepest of their values. -/
theorem nesting_fields_le_iff {fields : List (String × Json)} {room : Nat} :
    nestingFields fields ≤ room ↔ ∀ field ∈ fields, field.2.nesting ≤ room := by
  induction fields with
  | nil => simp [nestingFields]
  | cons field fields ih => simp only [nestingFields, Nat.max_le, ih, List.forall_mem_cons]

/-! ## Faults of writing -/

/-- `WriteFault.Tells fit deep room fault?` says what the look for a fault tells of something that
is `deep`, has room for `room`, and of which `fit` says whether its numerals fit. -/
def WriteFault.Tells (fit : Bool) (deep room : Nat) : Option WriteFault → Prop
  | none => fit = true ∧ deep ≤ room
  | some .longNumeral => fit = false
  | some .tooDeep => room < deep

/-- The first fault of two things tells of both. -/
theorem WriteFault.Tells.or {fit fit' : Bool} {deep deep' room : Nat}
    {fault? fault?' : Option WriteFault} (h : Tells fit deep room fault?)
    (h' : Tells fit' deep' room fault?') :
    Tells (fit && fit') (max deep deep') room (fault? <|> fault?') := by
  cases fault? with
  | none =>
      obtain ⟨rfl, hdeep⟩ := h
      cases fault?' with
      | none => exact ⟨h'.1, Nat.max_le.2 ⟨hdeep, h'.2⟩⟩
      | some fault =>
          cases fault with
          | longNumeral => exact h'
          | tooDeep => exact Nat.lt_of_lt_of_le h' (Nat.le_max_right _ _)
  | some fault =>
      cases fault with
      | longNumeral => exact congrArg (· && fit') h
      | tooDeep => exact Nat.lt_of_lt_of_le h (Nat.le_max_left _ _)

/-- A list or an object takes room for one more than what lies in it. -/
theorem WriteFault.Tells.succ {fit : Bool} {deep room : Nat} {fault? : Option WriteFault}
    (h : Tells fit deep room fault?) : Tells fit (deep + 1) (room + 1) fault? := by
  cases fault? with
  | none => exact ⟨h.1, Nat.succ_le_succ h.2⟩
  | some fault =>
      cases fault with
      | longNumeral => exact h
      | tooDeep => exact Nat.succ_lt_succ h

variable (limit : Nat)

mutual
/-- What the look for a fault in a value tells. -/
theorem fault?_tells (v : Json) (room : Nat) :
    WriteFault.Tells (v.fits limit) v.nesting room (v.fault? limit room) := by
  match v, room with
  | .null, _ => exact ⟨rfl, Nat.zero_le _⟩
  | .bool _, _ => exact ⟨rfl, Nat.zero_le _⟩
  | .float _, _ => exact ⟨rfl, Nat.zero_le _⟩
  | .text _, _ => exact ⟨rfl, Nat.zero_le _⟩
  | .int n, _ =>
      rw [fault?]
      split
      · next hn => exact ⟨decide_eq_true hn, Nat.zero_le _⟩
      · next hn => exact decide_eq_false hn
  | .list _, 0 => exact Nat.succ_pos _
  | .list items, room + 1 => exact (items_fault?_tells items room).succ
  | .object _, 0 => exact Nat.succ_pos _
  | .object fields, room + 1 => exact (fields_fault?_tells fields room).succ

/-- What the look for a fault in the items of a list tells. -/
theorem items_fault?_tells (items : List Json) (room : Nat) :
    WriteFault.Tells (fitItems limit items) (nestingItems items) room
      (itemsFault? limit room items) := by
  match items with
  | [] => exact ⟨rfl, Nat.zero_le _⟩
  | item :: items => exact (fault?_tells item room).or (items_fault?_tells items room)

/-- What the look for a fault in fields tells. -/
theorem fields_fault?_tells (fields : List (String × Json)) (room : Nat) :
    WriteFault.Tells (fitFields limit fields) (nestingFields fields) room
      (fieldsFault? limit room fields) := by
  match fields with
  | [] => exact ⟨rfl, Nat.zero_le _⟩
  | (_, value) :: fields => exact (fault?_tells value room).or (fields_fault?_tells fields room)
end

/-- Nothing keeps a value from being written exactly if its numerals fit and there is room for
it. -/
theorem fault?_eq_none_iff {v : Json} {room : Nat} :
    v.fault? limit room = none ↔ v.fits limit = true ∧ v.nesting ≤ room := by
  have htells := fault?_tells limit v room
  cases hfault : v.fault? limit room with
  | none =>
      rw [hfault] at htells
      exact iff_of_true rfl htells
  | some fault =>
      rw [hfault] at htells
      refine iff_of_false nofun ?_
      rintro ⟨hfits, hroom⟩
      cases fault with
      | longNumeral => exact absurd (hfits.symm.trans htells) (by decide)
      | tooDeep => exact absurd hroom (Nat.not_le_of_lt htells)

/-! ## Depth and length -/

variable (l : Layout)

mutual
/-- A value is not deeper than its text is long. -/
theorem nesting_le_length (v : Json) (depth : Nat) : v.nesting ≤ (write l depth v).length := by
  match v with
  | .null | .bool _ | .int _ | .float _ | .text _ => exact Nat.zero_le _
  | .list [] => exact Nat.succ_le_succ (Nat.zero_le 1)
  | .object [] => exact Nat.succ_le_succ (Nat.zero_le 1)
  | .list (item :: items) =>
      have hitem := nesting_le_length item (depth + 1)
      have hitems := nesting_items_le_length items depth
      simp only [nesting, nestingItems, write, List.length_append, List.length_cons]
      omega
  | .object ((name, value) :: fields) =>
      have hvalue := nesting_le_length value (depth + 1)
      have hfields := nesting_fields_le_length fields depth
      simp only [nesting, nestingFields, write, List.length_append, List.length_cons]
      omega

/-- Items are not deeper than their text is long. -/
theorem nesting_items_le_length (items : List Json) (depth : Nat) :
    nestingItems items ≤ (writeItems l depth items).length := by
  match items with
  | [] => exact Nat.zero_le _
  | item :: items =>
      have hitem := nesting_le_length item (depth + 1)
      have hitems := nesting_items_le_length items depth
      simp only [nestingItems, writeItems, List.length_append]
      omega

/-- Fields are not deeper than their text is long. -/
theorem nesting_fields_le_length (fields : List (String × Json)) (depth : Nat) :
    nestingFields fields ≤ (writeFields l depth fields).length := by
  match fields with
  | [] => exact Nat.zero_le _
  | (_, value) :: fields =>
      have hvalue := nesting_le_length value (depth + 1)
      have hfields := nesting_fields_le_length fields depth
      simp only [nestingFields, writeFields, List.length_append]
      omega
end

end SceneLint.Json
