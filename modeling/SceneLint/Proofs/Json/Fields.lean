import SceneLint.Json.Basic

/-!
# Collecting fields

`collectFields` keeps one field per name (`collect_fields_nodup`), with the last value given under
it (`get_field_collect_fields`). A list in which no name occurs twice is kept as it is
(`collect_fields_of_nodup`).
-/

namespace SceneLint

variable {α : Type}

/-- Later fields count before earlier ones. -/
theorem last_field_append (name : String) (fields others : List (String × α)) :
    lastField? name (fields ++ others) = (lastField? name others <|> lastField? name fields) := by
  rw [lastField?, List.reverse_append, List.find?_append]
  cases hothers : others.reverse.find? (·.1 == name) with
  | none => simp [lastField?, hothers]
  | some field => simp [lastField?, hothers]

/-- A field in front counts where no other of its name follows. -/
theorem last_field_cons (name : String) (field : String × α) (fields : List (String × α)) :
    lastField? name (field :: fields) =
      (lastField? name fields <|> if field.1 = name then some field.2 else none) := by
  rw [← List.singleton_append, last_field_append]
  by_cases hname : field.1 = name <;> simp [lastField?, hname]

/-- A new name goes last. -/
theorem put_field_of_not_mem {name : String} {fields : List (String × α)}
    (h : name ∉ fields.map (·.1)) (value : α) :
    putField name value fields = fields ++ [(name, value)] := by
  induction fields with
  | nil => rfl
  | cons field fields ih =>
      rw [List.map_cons, List.mem_cons, not_or] at h
      rw [putField, if_neg (Ne.symm h.1), ih h.2]
      rfl

/-- Putting fields behind others, no name of which occurs twice, appends them. -/
theorem foldl_put_field_of_nodup {acc fields : List (String × α)}
    (h : ((acc ++ fields).map (·.1)).Nodup) :
    fields.foldl (fun acc field => putField field.1 field.2 acc) acc = acc ++ fields := by
  induction fields generalizing acc with
  | nil => simp
  | cons field fields ih =>
      have hnew : field.1 ∉ acc.map (·.1) := by
        rw [List.map_append, List.nodup_append] at h
        intro hmem
        exact h.2.2 _ hmem _ (by simp) rfl
      rw [List.foldl_cons, put_field_of_not_mem hnew, ih (by simpa using h)]
      simp

/-- Fields of which no name occurs twice are kept as they are. -/
theorem collect_fields_of_nodup {fields : List (String × α)} (h : (fields.map (·.1)).Nodup) :
    collectFields fields = fields := by
  rw [collectFields, foldl_put_field_of_nodup (by simpa using h), List.nil_append]

/-- Setting a field adds at most its own name. -/
theorem names_put_field (name : String) (value : α) (fields : List (String × α)) :
    (putField name value fields).map (·.1) =
      if name ∈ fields.map (·.1) then fields.map (·.1) else fields.map (·.1) ++ [name] := by
  induction fields with
  | nil => rfl
  | cons field fields ih =>
      rw [putField]
      by_cases hname : field.1 = name
      · simp [hname]
      · rw [if_neg hname, List.map_cons, ih]
        by_cases hmem : name ∈ fields.map (·.1) <;> simp [hmem, Ne.symm hname]

/-- Collected fields name no field twice. -/
theorem collect_fields_nodup (fields : List (String × α)) :
    ((collectFields fields).map (·.1)).Nodup := by
  have hfold : ∀ acc : List (String × α), (acc.map (·.1)).Nodup →
      ((fields.foldl (fun acc field => putField field.1 field.2 acc) acc).map (·.1)).Nodup := by
    induction fields with
    | nil => exact fun acc hacc => hacc
    | cons field fields ih =>
        intro acc hacc
        apply ih
        rw [names_put_field]
        split
        · exact hacc
        · next hnew => exact List.nodup_append.2 ⟨hacc, by simp, by grind⟩
  exact hfold [] List.nodup_nil

/-- A collected field has the last value given under its name. -/
theorem get_field_collect_fields (name : String) (fields : List (String × α)) :
    getField? name (collectFields fields) = lastField? name fields := by
  have hfold : ∀ acc : List (String × α),
      getField? name (fields.foldl (fun acc field => putField field.1 field.2 acc) acc) =
        (lastField? name fields <|> getField? name acc) := by
    induction fields with
    | nil => intro acc; simp [lastField?]
    | cons field fields ih =>
        intro acc
        rw [List.foldl_cons, ih, last_field_cons]
        by_cases hname : field.1 = name
        · subst hname
          simp [get_field?_put_field_self]
        · simp [hname, get_field?_put_field_of_ne field.2 acc (Ne.symm hname)]
  rw [collectFields, hfold, getField?]
  simp

/-- A field is found under its name if no name occurs twice. -/
theorem get_field_of_mem {name : String} {value : α} {fields : List (String × α)}
    (h : (fields.map (·.1)).Nodup) (hmem : (name, value) ∈ fields) :
    getField? name fields = some value := by
  induction fields with
  | nil => cases hmem
  | cons field fields ih =>
      rw [List.map_cons, List.nodup_cons] at h
      rw [List.mem_cons] at hmem
      rcases hmem with rfl | hmem
      · simp [getField?]
      · have hne : field.1 ≠ name := by
          intro heq
          exact h.1 (heq ▸ List.mem_map_of_mem hmem)
        rw [getField?, if_neg hne, ih h.2 hmem]

/-- Every field that is found is one of the fields. -/
theorem mem_of_get_field {name : String} {value : α} {fields : List (String × α)}
    (h : getField? name fields = some value) : (name, value) ∈ fields := by
  induction fields with
  | nil => cases h
  | cons field fields ih =>
      rw [getField?] at h
      split at h
      · next heq =>
          cases h
          rw [← heq]
          exact List.mem_cons_self
      · exact List.mem_cons_of_mem _ (ih h)

end SceneLint
