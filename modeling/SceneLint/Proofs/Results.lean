/-!
# Computations that may fail

What is known of a computation from the fact that it has a result.
-/

namespace SceneLint

variable {α : Type}

/-- A computation in two parts has a result when the second has one on that of the first. -/
theorem bind_eq_ok_iff {ε β : Type} {x : Except ε α} {f : α → Except ε β} {b : β} :
    x >>= f = .ok b ↔ ∃ a, x = .ok a ∧ f a = .ok b := by
  cases x <;> simp [bind, Except.bind]

/-- What is left of an outcome is its result. -/
theorem to_option_eq_some_iff {ε : Type} {x : Except ε α} {a : α} :
    x.toOption = some a ↔ x = .ok a := by
  cases x <;> simp [Except.toOption]

/-- A result that is changed afterwards comes from one before. -/
theorem map_eq_ok_iff {ε β : Type} {x : Except ε α} {f : α → β} {b : β} :
    x.map f = .ok b ↔ ∃ a, x = .ok a ∧ f a = b := by
  cases x <;> simp [Except.map]

end SceneLint
