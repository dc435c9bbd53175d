import SceneLint.Proofs.Script.Headers
import SceneLint.Proofs.Text.Trim

/-!
# The grammar of header lines

A `Form` is a header line taken apart: the gaps behind its keywords, and its words. `Form.text`
writes it, `Form.Proper` says which words may stand in it, and `Spelled line form` says that a line
without the blanks at its ends is written in this form. `of_line_grammar` compares this with what
`ofLine` reads: what is read is what the only form of the line declares, a line without a keyword
declares nothing, and every other line is a fault.
-/

namespace SceneLint

/-- `HeaderFault.keyword fault` is the keyword of the lines with this fault. -/
def HeaderFault.keyword : HeaderFault → String
  | .wordAfterClassName => "class_name "
  | .wordAfterBase => "extends"

namespace Header

open Text (Blanks StartsBare EndsBare)

/-- A `Form` is a header line taken apart. Each keyword has a gap behind it. -/
inductive Form where
  | nameOnly (gap name : List Char)
  | nameAndBase (gap name baseGap base : List Char)
  | baseOnly (gap base : List Char)

namespace Form

/-- `text form` is the line that a form makes, from its first keyword to its last word. -/
def text : Form → List Char
  | .nameOnly gap name => "class_name ".toList ++ (gap ++ name)
  | .nameAndBase gap name baseGap base =>
      "class_name ".toList ++ (gap ++ (name ++ " extends ".toList ++ (baseGap ++ base)))
  | .baseOnly gap base => "extends".toList ++ (gap ++ base)

/-- `Proper form` says that the gaps of a form are blanks and its words start with none, that a
class name or a lone base holds no space, and that only a lone base may be empty. -/
def Proper : Form → Prop
  | .nameOnly gap name => Blanks gap ∧ name ≠ [] ∧ ' ' ∉ name ∧ StartsBare name
  | .nameAndBase gap name baseGap base =>
      Blanks gap ∧ name ≠ [] ∧ ' ' ∉ name ∧ StartsBare name ∧
        Blanks baseGap ∧ base ≠ [] ∧ StartsBare base
  | .baseOnly gap base => Blanks gap ∧ ' ' ∉ base ∧ StartsBare base

/-- `header form` is what a line of this form declares. -/
def header : Form → Header
  | .nameOnly _ name => ⟨some (String.ofList name), none⟩
  | .nameAndBase _ name _ base => ⟨some (String.ofList name), some (String.ofList base)⟩
  | .baseOnly _ base => ⟨none, some (String.ofList base)⟩

variable {form : Form} {name base : List Char}

/-- Only a lone class name declares a class name without a base. -/
theorem name_only_of_header (h : form.header = ⟨some (String.ofList name), none⟩) :
    ∃ gap, form = .nameOnly gap name := by
  cases form with
  | nameOnly gap name' =>
      obtain rfl := String.ofList_injective (Option.some.inj (congrArg Header.className h))
      exact ⟨gap, rfl⟩
  | nameAndBase => simp [header] at h
  | baseOnly => simp [header] at h

/-- Only a class name before a base declares both. -/
theorem name_and_base_of_header
    (h : form.header = ⟨some (String.ofList name), some (String.ofList base)⟩) :
    ∃ gap baseGap, form = .nameAndBase gap name baseGap base := by
  cases form with
  | nameOnly => simp [header] at h
  | nameAndBase gap name' baseGap base' =>
      obtain rfl := String.ofList_injective (Option.some.inj (congrArg Header.className h))
      obtain rfl := String.ofList_injective (Option.some.inj (congrArg Header.base h))
      exact ⟨gap, baseGap, rfl⟩
  | baseOnly => simp [header] at h

/-- Only a lone base declares a base without a class name. -/
theorem base_only_of_header (h : form.header = ⟨none, some (String.ofList base)⟩) :
    ∃ gap, form = .baseOnly gap base := by
  cases form with
  | nameOnly => simp [header] at h
  | nameAndBase => simp [header] at h
  | baseOnly gap base' =>
      obtain rfl := String.ofList_injective (Option.some.inj (congrArg Header.base h))
      exact ⟨gap, rfl⟩

/-- The class name in a proper form is not empty and holds no space. -/
theorem class_name_of_proper {declared : String} (h : form.Proper)
    (hname : form.header.className = some declared) : declared ≠ "" ∧ ' ' ∉ declared.toList := by
  cases form with
  | nameOnly gap name' =>
      obtain ⟨_, hne, hspace, _⟩ := h
      obtain rfl := Option.some.inj hname
      exact ⟨by simpa using hne, by simpa using hspace⟩
  | nameAndBase gap name' baseGap base =>
      obtain ⟨_, hne, hspace, _⟩ := h
      obtain rfl := Option.some.inj hname
      exact ⟨by simpa using hne, by simpa using hspace⟩
  | baseOnly => cases hname

end Form

/-- `Spelled line form` says that a line without the blanks at its ends is written in this form. -/
def Spelled (line : List Char) (form : Form) : Prop :=
  form.Proper ∧ Text.trim line = form.text

variable {line words rest lead : List Char} {form form' : Form} {here : Header}
  {fault : HeaderFault}

/-! ## Words behind a keyword -/

/-- A word follows the space in a line that ends with no blank. -/
theorem trim_ne_nil (h : EndsBare (lead ++ ' ' :: rest)) : Text.trim rest ≠ [] := by
  intro hnil
  have hspace : EndsBare ([' '] ++ rest) := h.of_append
  have hrest : EndsBare rest := hspace.of_append
  obtain ⟨gap, hgap, _, heq⟩ := Text.exists_gap_trim hrest
  rw [hnil, List.append_nil] at heq
  have hblanks : Blanks ([' '] ++ rest) := by
    rw [heq]
    exact List.forall_mem_cons.2 ⟨by decide, hgap⟩
  exact List.cons_ne_nil _ _ (hblanks.eq_nil hspace)

/-- The words behind the keyword for a class name are what its gap leaves of the line. -/
theorem class_words_iff : ClassWords line words ↔ ∃ gap, Blanks gap ∧ StartsBare words ∧
    words ≠ [] ∧ Text.trim line = "class_name ".toList ++ (gap ++ words) := by
  have hend := Text.ends_bare_trim line
  constructor
  · rintro ⟨rest, hline, rfl⟩
    rw [hline] at hend
    have hspace : EndsBare ("class_name".toList ++ ' ' :: rest) := by simpa using hend
    have hne := trim_ne_nil hspace
    have hrest : EndsBare rest := hend.of_append
    obtain ⟨gap, hgap, hwords, heq⟩ := Text.exists_gap_trim hrest
    exact ⟨gap, hgap, hwords, hne, by rw [hline, ← heq]⟩
  · rintro ⟨gap, hgap, hwords, _, hline⟩
    rw [hline] at hend
    exact ⟨gap ++ words, hline, Text.trim_append hgap hwords hend.of_append.of_append⟩

/-- A line that starts with a keyword does not start with the other one. -/
theorem keyword_unique {fault' : HeaderFault} (h : fault.keyword.toList <+: rest)
    (h' : fault'.keyword.toList <+: rest) : fault = fault' := by
  obtain ⟨a, ha⟩ := h
  obtain ⟨b, hb⟩ := h'
  rw [← ha] at hb
  -- The keywords differ in their first letters.
  cases fault with
  | wordAfterClassName =>
      cases fault' with
      | wordAfterClassName => rfl
      | wordAfterBase => simp [HeaderFault.keyword] at hb
  | wordAfterBase =>
      cases fault' with
      | wordAfterClassName => simp [HeaderFault.keyword] at hb
      | wordAfterBase => rfl

/-! ## Reading a form -/

/-- A line declares what its form declares. -/
theorem of_line_of_spelled (h : Spelled line form) : ofLine line = .ok form.header := by
  obtain ⟨hproper, hline⟩ := h
  have hend := Text.ends_bare_trim line
  rw [hline] at hend
  cases form with
  | nameOnly gap name =>
      obtain ⟨hgap, hne, hspace, hname⟩ := hproper
      have hwords : ClassWords line name := class_words_iff.2 ⟨gap, hgap, hname, hne, hline⟩
      rw [of_line_of_class_words hwords, of_class_words_alone hspace, Form.header]
  | nameAndBase gap name baseGap base =>
      obtain ⟨hgap, hne, hspace, hname, hbaseGap, _, hbase⟩ := hproper
      have hstart : StartsBare (name ++ " extends ".toList ++ (baseGap ++ base)) := by
        obtain ⟨c, cs, rfl⟩ := List.exists_cons_of_ne_nil hne
        exact hname
      have hwords : ClassWords line (name ++ " extends ".toList ++ (baseGap ++ base)) :=
        class_words_iff.2 ⟨gap, hgap, hstart, by simp, hline⟩
      have htrim : Text.trim (baseGap ++ base) = base :=
        Text.trim_append hbaseGap hbase hend.of_append.of_append.of_append.of_append
      rw [of_line_of_class_words hwords, of_class_words_extending hspace, htrim, Form.header]
  | baseOnly gap base =>
      obtain ⟨hgap, hspace, hbase⟩ := hproper
      have htrim : Text.trim (gap ++ base) = base :=
        Text.trim_append hgap hbase hend.of_append.of_append
      rw [of_line_of_base hline, htrim, ofBaseWords, if_neg (by simpa using hspace), Form.header]

/-- A line that declares something has a form. -/
theorem spelled_of_line (h : ofLine line = .ok here) (hne : here ≠ empty) :
    ∃ form, Spelled line form ∧ form.header = here := by
  have hend := Text.ends_bare_trim line
  rcases of_line_cases h with ⟨name, hwords, hspace, rfl⟩ | ⟨name, rest, hwords, hspace, rfl⟩ |
    ⟨rest, hline, hspace, rfl⟩ | rfl
  · obtain ⟨gap, hgap, hname, hne, hline⟩ := class_words_iff.1 hwords
    exact ⟨.nameOnly gap name, ⟨⟨hgap, hne, hspace, hname⟩, hline⟩, rfl⟩
  · obtain ⟨gap, hgap, hstart, _, hline⟩ := class_words_iff.1 hwords
    -- The words start with no blank, so the space before the second keyword is not the first one.
    have hne : name ≠ [] := by
      rintro rfl
      have hblank := hstart ' ' rfl
      simp [Text.isBlank] at hblank
    have hname : StartsBare name := by
      obtain ⟨c, cs, rfl⟩ := List.exists_cons_of_ne_nil hne
      exact hstart
    rw [hline] at hend
    have hwords : EndsBare (name ++ " extends ".toList ++ rest) := hend.of_append.of_append
    have hspace' : EndsBare (name ++ " extends".toList ++ ' ' :: rest) := by simpa using hwords
    have hbase := trim_ne_nil hspace'
    have hrest : EndsBare rest := hwords.of_append
    obtain ⟨baseGap, hbaseGap, hstart', heq⟩ := Text.exists_gap_trim hrest
    refine ⟨.nameAndBase gap name baseGap (Text.trim rest), ⟨?_, hline.trans ?_⟩, rfl⟩
    · exact ⟨hgap, hne, hspace, hname, hbaseGap, hbase, hstart'⟩
    · exact congrArg
        (fun tail => "class_name ".toList ++ (gap ++ (name ++ " extends ".toList ++ tail))) heq
  · rw [hline] at hend
    have hrest : EndsBare rest := hend.of_append
    obtain ⟨gap, hgap, hbase, heq⟩ := Text.exists_gap_trim hrest
    refine ⟨.baseOnly gap (Text.trim rest), ⟨⟨hgap, hspace, hbase⟩, hline.trans ?_⟩, rfl⟩
    exact congrArg ("extends".toList ++ ·) heq
  · exact absurd rfl hne

/-- A line has one form only. -/
theorem spelled_unique (h : Spelled line form) (h' : Spelled line form') : form = form' := by
  -- Both forms declare what is read from the line, so their words agree, and the gaps are the rest.
  have hread := of_line_of_spelled h'
  rw [of_line_of_spelled h, Except.ok.injEq] at hread
  obtain ⟨hproper, hline⟩ := h
  obtain ⟨hproper', hline'⟩ := h'
  rw [hline] at hline'
  cases form' with
  | nameOnly gap' name =>
      obtain ⟨gap, rfl⟩ := Form.name_only_of_header hread
      rw [List.append_cancel_right (List.append_cancel_left hline')]
  | nameAndBase gap' name baseGap' base =>
      obtain ⟨gap, baseGap, rfl⟩ := Form.name_and_base_of_header hread
      obtain ⟨hgap, hne, _, hname, _⟩ := hproper
      obtain ⟨hgap', _⟩ := hproper'
      have hstart (base : List Char) : StartsBare (name ++ " extends ".toList ++ base) :=
        (hname.append hne _).append (by simp) base
      have hwords : gap ++ (name ++ " extends ".toList ++ (baseGap ++ base)) =
          gap' ++ (name ++ " extends ".toList ++ (baseGap' ++ base)) :=
        List.append_cancel_left hline'
      obtain ⟨rfl, htail⟩ := Text.gap_append_inj hgap (hstart _) hgap' (hstart _) hwords
      rw [List.append_cancel_right (List.append_cancel_left htail)]
  | baseOnly gap' base =>
      obtain ⟨gap, rfl⟩ := Form.base_only_of_header hread
      rw [List.append_cancel_right (List.append_cancel_left hline')]

/-! ## Lines without a form -/

/-- A line declares nothing exactly when it starts with neither keyword. -/
theorem of_line_empty_iff : ofLine line = .ok empty ↔
    ¬ "class_name ".toList <+: Text.trim line ∧ ¬ "extends".toList <+: Text.trim line := by
  rw [← Text.prefix_rest_eq_none_iff, ← Text.prefix_rest_eq_none_iff]
  constructor
  · intro h
    unfold ofLine ofTrimmed at h
    split at h
    · unfold ofClassWords at h
      split at h
      · cases h
      · split at h <;> cases h
    · next hclass =>
        split at h
        · unfold ofBaseWords at h
          split at h <;> cases h
        · next hbase => exact ⟨hclass, hbase⟩
  · rintro ⟨hclass, hbase⟩
    rw [ofLine, ofTrimmed, hclass]
    simp only [hbase]

/-- A line with a fault starts with the keyword the fault is about. -/
theorem keyword_of_line_error (h : ofLine line = .error fault) :
    fault.keyword.toList <+: Text.trim line := by
  unfold ofLine ofTrimmed at h
  split at h
  · next rest hrest =>
      unfold ofClassWords at h
      split at h
      · cases h
      · split at h
        · cases h
        · cases h
          exact ⟨rest, List.isPrefixOf?_eq_some_iff_append_eq.1 hrest⟩
  · split at h
    · next rest hrest =>
        unfold ofBaseWords at h
        split at h
        · cases h
          exact ⟨rest, List.isPrefixOf?_eq_some_iff_append_eq.1 hrest⟩
        · cases h
    · cases h

/-- A line is a fault exactly when it starts with a keyword and has no form. -/
theorem of_line_error_iff : ofLine line = .error fault ↔
    fault.keyword.toList <+: Text.trim line ∧ ∀ form, ¬ Spelled line form := by
  constructor
  · intro h
    refine ⟨keyword_of_line_error h, fun form hform => ?_⟩
    rw [of_line_of_spelled hform] at h
    cases h
  · rintro ⟨hkeyword, hnone⟩
    cases hline : ofLine line with
    | error fault' => rw [keyword_unique (keyword_of_line_error hline) hkeyword]
    | ok here =>
        rcases Decidable.em (here = empty) with rfl | hne
        · obtain ⟨hclass, hbase⟩ := of_line_empty_iff.1 hline
          cases fault with
          | wordAfterClassName => exact absurd hkeyword hclass
          | wordAfterBase => exact absurd hkeyword hbase
        · obtain ⟨form, hform, _⟩ := spelled_of_line hline hne
          exact absurd hform (hnone form)

/-! ## The grammar -/

/-- A line is read exactly by its grammar. It declares what its only form says, so a class name is
never empty and never holds a space; it declares nothing when it starts with neither keyword; and it
is a fault when it starts with a keyword and has no form. -/
theorem of_line_grammar (line : List Char) :
    (∀ name, ofLine line = .ok ⟨some (String.ofList name), none⟩ ↔
      ∃ gap, Spelled line (.nameOnly gap name)) ∧
    (∀ name base, ofLine line = .ok ⟨some (String.ofList name), some (String.ofList base)⟩ ↔
      ∃ gap baseGap, Spelled line (.nameAndBase gap name baseGap base)) ∧
    (∀ base, ofLine line = .ok ⟨none, some (String.ofList base)⟩ ↔
      ∃ gap, Spelled line (.baseOnly gap base)) ∧
    (ofLine line = .ok empty ↔
      ¬ "class_name ".toList <+: Text.trim line ∧ ¬ "extends".toList <+: Text.trim line) ∧
    (∀ fault, ofLine line = .error fault ↔
      fault.keyword.toList <+: Text.trim line ∧ ∀ form, ¬ Spelled line form) ∧
    (∀ form form', Spelled line form → Spelled line form' → form = form') ∧
    ∀ name base, ofLine line = .ok ⟨some name, base⟩ → name ≠ "" ∧ ' ' ∉ name.toList := by
  refine ⟨?_, ?_, ?_, of_line_empty_iff, fun _ => of_line_error_iff, ?_, ?_⟩
  · intro name
    constructor
    · intro h
      obtain ⟨form, hform, hheader⟩ := spelled_of_line h (by simp [empty])
      obtain ⟨gap, rfl⟩ := Form.name_only_of_header hheader
      exact ⟨gap, hform⟩
    · rintro ⟨gap, hform⟩
      exact of_line_of_spelled hform
  · intro name base
    constructor
    · intro h
      obtain ⟨form, hform, hheader⟩ := spelled_of_line h (by simp [empty])
      obtain ⟨gap, baseGap, rfl⟩ := Form.name_and_base_of_header hheader
      exact ⟨gap, baseGap, hform⟩
    · rintro ⟨gap, baseGap, hform⟩
      exact of_line_of_spelled hform
  · intro base
    constructor
    · intro h
      obtain ⟨form, hform, hheader⟩ := spelled_of_line h (by simp [empty])
      obtain ⟨gap, rfl⟩ := Form.base_only_of_header hheader
      exact ⟨gap, hform⟩
    · rintro ⟨gap, hform⟩
      exact of_line_of_spelled hform
  · intro form form' hform hform'
    exact spelled_unique hform hform'
  · intro name base h
    obtain ⟨form, hform, hheader⟩ := spelled_of_line h (by simp [empty])
    exact Form.class_name_of_proper hform.1 (congrArg Header.className hheader)

/-- Blanks of any kind may stand behind a keyword, but only a space ends a class name. -/
example : ofLine "\tclass_name \t Item extends\tNode".toList =
    .error .wordAfterClassName := by rfl

end Header

end SceneLint
