import SceneLint.World.Basic

/-!
# What the system tells of a path

An answer about a path has two sources. Whether the system looks at the path at all is seen from the
path as it is written (`refusal?`); what it tells then depends on where the path leads (`answer`).
`holds_asked` takes every answer apart in this way, and the other lemmas say what the answers are
where it is known what lies at a path.
-/

namespace SceneLint.World

/-- `refusal? w p` is why the system does not look at a path that is written like `p`. -/
def refusal? (w : World) (p : FilePath) : Option SystemError :=
  if w.denied.kind.contains p.text then some ⟨.denied, p.text⟩
  else if pathLimit ≤ p.text.utf8ByteSize then some ⟨.nameTooLong, p.text⟩
  else none

/-- `answer is p found` says whether a path that leads to `found` leads to something of a kind. -/
def answer (is : Tree → Bool) (p : FilePath) :
    Except SystemFault (List String × Tree) → Except SystemError Bool
  | .ok (_, t) => .ok (is t)
  | .error fault => if fault.isAbsence then .ok false else .error ⟨fault, p.text⟩

/-- `contentOf p found` is the content of a file that a path leads to. -/
def contentOf (p : FilePath) :
    Except SystemFault (List String × Tree) → Except SystemError (List UInt8)
  | .ok (_, .file content) => .ok content
  | .ok _ => .error ⟨.isDirectory, p.text⟩
  | .error fault => .error ⟨fault, p.text⟩

variable {w : World} {p : FilePath} {place : List String} {t : Tree}

/-- A file is read where reading is not denied, and its path not too long. -/
theorem octets_eq (w : World) (p : FilePath) :
    w.octets p =
      if w.denied.read.contains p.text then .error ⟨.denied, p.text⟩
      else if pathLimit ≤ p.text.utf8ByteSize then .error ⟨.nameTooLong, p.text⟩
      else contentOf p (w.find p) := by
  unfold octets reached
  by_cases hlong : pathLimit ≤ p.text.utf8ByteSize
  · simp only [hlong, ↓reduceIte]
  simp only [hlong, ↓reduceIte]
  rcases w.find p with fault | ⟨place, t⟩
  · rfl
  · cases t <;> rfl

/-- The system tells nothing where it does not look, and else what the path leads to. -/
theorem asked_eq (w : World) (p : FilePath) (found : Except SystemFault (List String × Tree)) :
    w.asked p found =
      match w.refusal? p with
      | some e => .error e
      | none =>
          match found with
          | .error fault => .error ⟨fault, p.text⟩
          | .ok (_, t) => .ok t := by
  unfold asked reached refusal?
  by_cases hkind : w.denied.kind.contains p.text
  · simp only [hkind, ↓reduceIte]
  by_cases hlong : pathLimit ≤ p.text.utf8ByteSize
  · simp only [hkind, hlong, ↓reduceIte, Bool.false_eq_true]
  · rcases found with fault | ⟨place, t⟩ <;>
      simp only [hkind, hlong, ↓reduceIte, Bool.false_eq_true]

/-- A refusal to look says more than that nothing is there. -/
theorem not_absence_of_refusal {e : SystemError} (h : w.refusal? p = some e) :
    e.fault.isAbsence = false := by
  unfold refusal? at h
  split at h
  · cases h
    rfl
  · split at h
    · cases h
      rfl
    · cases h

/-- An answer is none where a path cannot be asked for, the refusal where the system does not look,
and else what the path leads to. -/
theorem holds_asked (w : World) (is : Tree → Bool) (p : FilePath)
    (found : Except SystemFault (List String × Tree)) :
    holds is p (w.asked p found) =
      if hasNul p then .ok false
      else
        match w.refusal? p with
        | some e => .error e
        | none => answer is p found := by
  unfold holds
  rw [asked_eq]
  cases hlook : w.refusal? p with
  | some e => simp only [not_absence_of_refusal hlook, Bool.false_eq_true, ↓reduceIte]
  | none => cases found <;> rfl

/-- Something surely lies at a path exactly when the system looks there and finds something. -/
theorem has_eq_true_iff : w.has p = .ok true ↔
    hasNul p = false ∧ w.refusal? p = none ∧ ∃ place t, w.find p = .ok (place, t) := by
  rw [has, stat, holds_asked]
  cases hasNul p with
  | true => simp
  | false =>
      cases w.refusal? p with
      | some e => simp
      | none =>
          cases w.find p with
          | error fault => cases hfault : fault.isAbsence <;> simp [answer, hfault]
          | ok found =>
              obtain ⟨place, t⟩ := found
              simp [answer]

/-- A directory surely lies at a path exactly when the system looks there and finds one. -/
theorem has_directory_eq_true_iff : w.hasDirectory p = .ok true ↔
    hasNul p = false ∧ w.refusal? p = none ∧
      ∃ place t, w.find p = .ok (place, t) ∧ t.isDirectory = true := by
  rw [hasDirectory, stat, holds_asked]
  cases hasNul p with
  | true => simp
  | false =>
      cases w.refusal? p with
      | some e => simp
      | none =>
          cases w.find p with
          | error fault => cases hfault : fault.isAbsence <;> simp [answer, hfault]
          | ok found =>
              obtain ⟨place, t⟩ := found
              simp [answer, and_assoc]

/-- Where something surely lies, it is told whether it is a directory. -/
theorem has_directory_of_has (h : w.has p = .ok true) (hfind : w.find p = .ok (place, t)) :
    w.hasDirectory p = .ok t.isDirectory := by
  obtain ⟨hnul, hlook, -⟩ := has_eq_true_iff.1 h
  rw [hasDirectory, stat, holds_asked, hnul, hlook, hfind]
  rfl

/-- Where nothing surely lies, the same is told of a directory. -/
theorem has_directory_of_not_has (h : w.has p ≠ .ok true) : w.hasDirectory p = w.has p := by
  rw [has, stat, holds_asked] at h ⊢
  rw [hasDirectory, stat, holds_asked]
  cases hnul : hasNul p with
  | true => rfl
  | false =>
      cases hlook : w.refusal? p with
      | some e => rfl
      | none =>
          cases hfind : w.find p with
          | error fault => rfl
          | ok found =>
              rw [hnul, hlook, hfind] at h
              exact absurd rfl h

end SceneLint.World
