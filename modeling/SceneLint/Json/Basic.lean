import SceneLint.Decimal.Binary64

/-!
# JSON values

`Json` is a JSON value. Whole numbers and numbers with a fraction or exponent are kept apart, and
the fields of an object keep their order. `putField` gives a field a value: a new name goes last,
a known one keeps its place.
-/

namespace SceneLint

/-- A `Json` is a JSON value. -/
inductive Json where
  | null
  | bool (b : Bool)
  | int (n : Int)
  | float (x : Binary64)
  | text (s : String)
  | list (items : List Json)
  | object (fields : List (String × Json))

/-- `putField name value fields` sets a field; a known name keeps its place. -/
def putField {α : Type} (name : String) (value : α) : List (String × α) → List (String × α)
  | [] => [(name, value)]
  | (n, v) :: fields =>
      if n = name then (n, value) :: fields else (n, v) :: putField name value fields

/-- `getField? name fields` is the value of a field. -/
def getField? {α : Type} (name : String) : List (String × α) → Option α
  | [] => none
  | (n, v) :: fields => if n = name then some v else getField? name fields

/-- `lastField? name fields` is the last value given under a name. -/
def lastField? {α : Type} (name : String) (fields : List (String × α)) : Option α :=
  (fields.reverse.find? (·.1 == name)).map (·.2)

/-- `collectFields fields` keeps one field per name, in the place of the first and with the value
of the last. -/
def collectFields {α : Type} (fields : List (String × α)) : List (String × α) :=
  fields.foldl (fun acc field => putField field.1 field.2 acc) []

/-- A field that was set is found again. -/
theorem get_field?_put_field_self {α : Type} (name : String) (value : α)
    (fields : List (String × α)) : getField? name (putField name value fields) = some value := by
  induction fields with
  | nil => simp [putField, getField?]
  | cons field fields ih =>
      obtain ⟨n, v⟩ := field
      by_cases h : n = name <;> simp [putField, getField?, h, ih]

/-- Setting a field leaves the others alone. -/
theorem get_field?_put_field_of_ne {α : Type} {name other : String} (value : α)
    (fields : List (String × α)) (h : other ≠ name) :
    getField? other (putField name value fields) = getField? other fields := by
  induction fields with
  | nil => simp [putField, getField?, Ne.symm h]
  | cons field fields ih =>
      obtain ⟨n, v⟩ := field
      by_cases hn : n = name
      · subst hn
        simp [putField, getField?, Ne.symm h]
      · by_cases ho : n = other
        · subst ho
          simp [putField, getField?, hn]
        · simp [putField, getField?, hn, ho, ih]

namespace Json

mutual
/-- `nesting v` is how many lists and objects lie in each other in `v`. -/
def nesting : Json → Nat
  | .list items => nestingItems items + 1
  | .object fields => nestingFields fields + 1
  | _ => 0

/-- `nestingItems items` is how many lists and objects lie in each other in items. -/
def nestingItems : List Json → Nat
  | [] => 0
  | item :: items => max (nesting item) (nestingItems items)

/-- `nestingFields fields` is how many lists and objects lie in each other in fields. -/
def nestingFields : List (String × Json) → Nat
  | [] => 0
  | (_, value) :: fields => max (nesting value) (nestingFields fields)
end

/-- `field? name v` is the value of a field when `v` is an object that has it. -/
def field? (name : String) : Json → Option Json
  | .object fields => getField? name fields
  | _ => none

end Json

end SceneLint
