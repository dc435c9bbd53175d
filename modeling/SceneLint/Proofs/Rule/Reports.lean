import SceneLint.Diagnostic

/-!
# Reports of broken rules

`Reports order Broken codes` says that a list of codes reports exactly the broken rules, each once
and in a fixed order. `reports_of_rules` shows it of a list of rules that are tried one after the
other, whatever is held to them.
-/

namespace SceneLint

/-- `Reports order Broken codes` says that `codes` are the codes of the broken rules, each once and
in the given order. -/
structure Reports (order : List String) (Broken : String → Prop) (codes : List String) : Prop where
  sublist : codes.Sublist order
  nodup : codes.Nodup
  mem_iff : ∀ code, code ∈ codes ↔ Broken code

variable {ρ β : Type} {rules : List ρ} {breach? : ρ → Option β} {code : β → String}
  {codesOf : ρ → List String}

/-- The codes of the breaches stand in the order of the rules. -/
theorem codes_sublist
    (hcodes : ∀ rule ∈ rules, ∀ b, breach? rule = some b → code b ∈ codesOf rule) :
    ((rules.filterMap breach?).map code).Sublist (rules.flatMap codesOf) := by
  induction rules with
  | nil => simp
  | cons rule rules ih =>
      have hrest := ih fun r hr => hcodes r (List.mem_cons_of_mem _ hr)
      rw [List.filterMap_cons, List.flatMap_cons]
      cases hbreach : breach? rule with
      | none => exact hrest.trans (List.sublist_append_right _ _)
      | some b =>
          have hfirst : [code b].Sublist (codesOf rule) :=
            List.singleton_sublist.2 (hcodes rule List.mem_cons_self b hbreach)
          exact hfirst.append hrest

/-- Rules with codes of their own, tried one after the other, report what is broken. -/
theorem reports_of_rules {Broken : String → Prop}
    (hcodes : ∀ rule ∈ rules, ∀ b, breach? rule = some b → code b ∈ codesOf rule)
    (hnodup : (rules.flatMap codesOf).Nodup)
    (hsound : ∀ rule ∈ rules, ∀ b, breach? rule = some b → Broken (code b))
    (hcomplete : ∀ c, Broken c → ∃ rule ∈ rules, ∃ b, breach? rule = some b ∧ code b = c) :
    Reports (rules.flatMap codesOf) Broken ((rules.filterMap breach?).map code) where
  sublist := codes_sublist hcodes
  nodup := (codes_sublist hcodes).nodup hnodup
  mem_iff c := by
    rw [List.mem_map]
    constructor
    · intro hreported
      obtain ⟨b, hb, rfl⟩ := hreported
      obtain ⟨rule, hrule, hbreach⟩ := List.mem_filterMap.1 hb
      exact hsound rule hrule b hbreach
    · intro hbroken
      obtain ⟨rule, hrule, b, hbreach, hcode⟩ := hcomplete c hbroken
      exact ⟨b, List.mem_filterMap.2 ⟨rule, hrule, hbreach⟩, hcode⟩

end SceneLint
