import SceneLint.Proofs.Rule.Reports
import SceneLint.Proofs.Script.Headers
import SceneLint.Proofs.Script.Segments
import SceneLint.Script.Rule

/-!
# The verdict on a script

`Breaks kind name text code` says of the name and the text of a file which conventions a script made
of it breaks, without scanning, cutting or building anything. `verdict_of_built_script` says that
the verdict on every script that can be built reports exactly these, in the order of `conventions`.
-/

namespace SceneLint.Script

open Header

/-- `bareName path` is the name of a script by its file: the stem, without the two characters that
mark a value or a reference. -/
def bareName (path : FilePath) : List Char :=
  if ScriptKind.ofFileName path.name = .behaviour then path.stem.toList
  else path.stem.toList.drop 2

/-- `IsStatement line` says that a line is neither blank nor a header, a comment or an exported
variable. -/
def IsStatement (line : List Char) : Prop :=
  Text.trim line ≠ [] ∧
    ∀ lead ∈ ["class_name", "extends", "#", "@export var "], ¬ lead.toList <+: Text.trim line

/-- `conventions kind` is the codes of the conventions for a kind, in the order of reporting. -/
def conventions : ScriptKind → List String
  | .behaviour => ["naming", "node-path-shorthand", "static-typing", "class-name", "extends"]
  | .value =>
      ["naming", "node-path-shorthand", "static-typing", "class-name", "extends", "export-only"]
  | .reference =>
      ["naming", "node-path-shorthand", "static-typing", "reference-class-name", "extends",
        "export-only"]

/-- `Breaks kind name text code` says that a script of this kind, name and text breaks the
convention with this code. -/
inductive Breaks (kind : ScriptKind) (name text : List Char) : String → Prop where
  | underscore : '_' ∈ name → Breaks kind name text "naming"
  | lowerCase (c rest) : name = c :: rest → Text.upperChar c ≠ [c] → Breaks kind name text "naming"
  | shorthand : '$' ∈ text → Breaks kind name text "node-path-shorthand"
  | untyped (segment front back) :
      IsSegment text segment → segment = front ++ '=' :: back → ':' ∉ front →
      Breaks kind name text "static-typing"
  | className :
      kind ≠ .reference → ¬ OnlyDeclares DeclaresClass (Text.lines text) name →
      Breaks kind name text "class-name"
  | referenceClassName (line word) :
      kind = .reference → line ∈ Text.lines text → DeclaresClass line word →
      Breaks kind name text "reference-class-name"
  | base :
      ¬ OnlyDeclares DeclaresBase (Text.lines text) "Node".toList → Breaks kind name text "extends"
  | statement (line) :
      kind ≠ .behaviour → line ∈ Text.lines text → IsStatement line →
      Breaks kind name text "export-only"

/-! ## What the checks decide -/

/-- A name is in camel case unless it holds an underscore or starts in lower case. -/
theorem is_camel_case_eq_false_iff (name : List Char) : isCamelCase name = false ↔
    '_' ∈ name ∨ ∃ c rest, name = c :: rest ∧ Text.upperChar c ≠ [c] := by
  cases name with
  | nil => simp [isCamelCase]
  | cons c rest =>
      simp only [isCamelCase, Bool.and_eq_false_iff, beq_eq_false_iff_ne, Bool.not_eq_false',
        List.contains_iff_mem]
      constructor
      · intro hcase
        rcases hcase with hupper | hmem
        · exact .inr ⟨c, rest, rfl, hupper⟩
        · exact .inl hmem
      · intro hcase
        rcases hcase with hmem | ⟨c', rest', heq, hupper⟩
        · exact .inr hmem
        · obtain ⟨rfl, rfl⟩ := List.cons.inj heq
          exact .inl hupper

/-- A line may stand in a script that only exports variables unless it is a statement. -/
theorem is_export_line_eq_false_iff (line : List Char) :
    isExportLine line = false ↔ IsStatement line := by
  simp only [isExportLine, IsStatement, Bool.or_eq_false_iff, List.isEmpty_eq_false_iff,
    ← List.isPrefixOf_iff_prefix, Bool.not_eq_true, List.forall_mem_cons, List.not_mem_nil,
    false_implies, implies_true, and_true, and_assoc]

/-- `ruleCode rule` is the code under which a breach of a rule is reported. -/
def ruleCode : ScriptRule → String
  | .naming => "naming"
  | .nodePath => "node-path-shorthand"
  | .staticTyping => "static-typing"
  | .className => "class-name"
  | .noClassName => "reference-class-name"
  | .base => "extends"
  | .exportOnly => "export-only"

variable {s : Script} {rule : ScriptRule} {b : ScriptBreach}

/-- A breach is reported under the code of the rule it breaks. -/
theorem code_of_breach (h : rule.breach? s = some b) : b.code = ruleCode rule := by
  unfold ScriptRule.breach? at h
  repeat' split at h
  all_goals cases h
  all_goals rfl

/-- The conventions of a kind are the codes of its rules. -/
theorem conventions_eq (kind : ScriptKind) :
    conventions kind = (ScriptRule.rulesFor kind).flatMap fun rule => [ruleCode rule] := by
  cases kind <;> rfl

/-- No two conventions of a kind have one code. -/
theorem conventions_nodup (kind : ScriptKind) : (conventions kind).Nodup := by
  cases kind <;> decide

/-- Every kind but references has to have a class name. -/
theorem class_name_mem_iff (kind : ScriptKind) :
    ScriptRule.className ∈ ScriptRule.rulesFor kind ↔ kind ≠ .reference := by
  cases kind <;> decide

/-- Only references are to have no class name. -/
theorem no_class_name_mem_iff (kind : ScriptKind) :
    ScriptRule.noClassName ∈ ScriptRule.rulesFor kind ↔ kind = .reference := by
  cases kind <;> decide

/-- Every kind but behaviours is to export variables only. -/
theorem export_only_mem_iff (kind : ScriptKind) :
    ScriptRule.exportOnly ∈ ScriptRule.rulesFor kind ↔ kind ≠ .behaviour := by
  cases kind <;> decide

/-- A script that has to have a class name has the right one exactly when one line declares it. -/
theorem class_name_eq_name_iff (hheader : headers s.contents = .ok ⟨s.className, s.base⟩) :
    s.className = some s.name ↔
      OnlyDeclares DeclaresClass (Text.lines s.contents.toList) s.name.toList := by
  rw [← class_name_eq_some_iff hheader, String.ofList_toList]

/-- A script has the right base exactly when one line declares it. -/
theorem base_eq_required_iff (hheader : headers s.contents = .ok ⟨s.className, s.base⟩) :
    s.base = some requiredBase ↔
      OnlyDeclares DeclaresBase (Text.lines s.contents.toList) "Node".toList := by
  rw [← base_eq_some_iff hheader, String.ofList_toList, requiredBase]

/-- What a rule finds fault with breaks the convention of the rule. -/
theorem breaks_of_breach (hheader : headers s.contents = .ok ⟨s.className, s.base⟩)
    (hrule : rule ∈ ScriptRule.rulesFor s.kind) (h : rule.breach? s = some b) :
    Breaks s.kind s.name.toList s.contents.toList (ruleCode rule) := by
  cases rule with
  | naming =>
      simp only [ScriptRule.breach?] at h
      split at h
      · cases h
      · next hcase =>
          rw [Bool.not_eq_true, is_camel_case_eq_false_iff] at hcase
          rcases hcase with hmem | ⟨c, rest, heq, hupper⟩
          · exact .underscore hmem
          · exact .lowerCase c rest heq hupper
  | nodePath =>
      simp only [ScriptRule.breach?] at h
      split at h
      · next hmem => exact .shorthand (List.contains_iff_mem.1 hmem)
      · cases h
  | staticTyping =>
      simp only [ScriptRule.breach?] at h
      split at h
      · next hany =>
          obtain ⟨segment, hmem, huntyped⟩ := List.any_eq_true.1 hany
          obtain ⟨front, back, heq, hfree⟩ := (is_untyped_iff segment).1 huntyped
          exact .untyped segment front back ((mem_segments_iff _ _).1 hmem) heq hfree
      · cases h
  | className =>
      have hkind := (class_name_mem_iff s.kind).1 hrule
      refine .className hkind fun honly => ?_
      rw [← class_name_eq_name_iff hheader] at honly
      simp only [ScriptRule.breach?, honly, if_true] at h
      cases h
  | noClassName =>
      have hkind := (no_class_name_mem_iff s.kind).1 hrule
      simp only [ScriptRule.breach?] at h
      split at h
      · next hsome =>
          obtain ⟨line, hline, word, hdeclares⟩ := (class_name_is_some_iff hheader).1 hsome
          exact .referenceClassName line word hkind hline hdeclares
      · cases h
  | base =>
      refine .base fun honly => ?_
      rw [← base_eq_required_iff hheader] at honly
      simp only [ScriptRule.breach?, honly, if_true] at h
      cases h
  | exportOnly =>
      have hkind := (export_only_mem_iff s.kind).1 hrule
      simp only [ScriptRule.breach?] at h
      split at h
      · cases h
      · next hall =>
          rw [Bool.not_eq_true, List.all_eq_false] at hall
          obtain ⟨line, hline, hexport⟩ := hall
          rw [Bool.not_eq_true, is_export_line_eq_false_iff] at hexport
          exact .statement line hkind hline hexport

/-- A rule finds fault with what breaks a convention. -/
theorem breach_of_breaks (hheader : headers s.contents = .ok ⟨s.className, s.base⟩) {code : String}
    (h : Breaks s.kind s.name.toList s.contents.toList code) :
    ∃ rule ∈ ScriptRule.rulesFor s.kind, ∃ b, rule.breach? s = some b ∧ b.code = code := by
  cases h with
  | underscore hmem =>
      have hcase := (is_camel_case_eq_false_iff s.name.toList).2 (.inl hmem)
      refine ⟨.naming, by cases s.kind <;> decide, .notCamelCase, ?_, rfl⟩
      simp [ScriptRule.breach?, hcase]
  | lowerCase c rest heq hupper =>
      have hcase := (is_camel_case_eq_false_iff s.name.toList).2 (.inr ⟨c, rest, heq, hupper⟩)
      refine ⟨.naming, by cases s.kind <;> decide, .notCamelCase, ?_, rfl⟩
      simp [ScriptRule.breach?, hcase]
  | shorthand hmem =>
      refine ⟨.nodePath, by cases s.kind <;> decide, .nodePath, ?_, rfl⟩
      exact if_pos (List.contains_iff_mem.2 hmem)
  | untyped segment front back hsegment heq hfree =>
      have huntyped := (is_untyped_iff segment).2 ⟨front, back, heq, hfree⟩
      refine ⟨.staticTyping, by cases s.kind <;> decide, .untyped, ?_, rfl⟩
      exact if_pos (List.any_eq_true.2 ⟨segment, (mem_segments_iff _ _).2 hsegment, huntyped⟩)
  | className hkind honly =>
      rw [← class_name_eq_name_iff hheader] at honly
      have hrule := (class_name_mem_iff s.kind).2 hkind
      cases hname : s.className with
      | none => exact ⟨.className, hrule, .noClassName, by simp [ScriptRule.breach?, hname], rfl⟩
      | some declared =>
          have hne : declared ≠ s.name := by
            rintro rfl
            exact honly hname
          exact ⟨.className, hrule, .otherClassName, by simp [ScriptRule.breach?, hname, hne], rfl⟩
  | referenceClassName line word hkind hline hdeclares =>
      have hsome := (class_name_is_some_iff hheader).2 ⟨line, hline, word, hdeclares⟩
      have hrule := (no_class_name_mem_iff s.kind).2 hkind
      exact ⟨.noClassName, hrule, .referenceClassName, if_pos hsome, rfl⟩
  | base honly =>
      rw [← base_eq_required_iff hheader] at honly
      have hrule : ScriptRule.base ∈ ScriptRule.rulesFor s.kind := by cases s.kind <;> decide
      cases hbase : s.base with
      | none => exact ⟨.base, hrule, .noBase, by simp [ScriptRule.breach?, hbase], rfl⟩
      | some target =>
          have hne : target ≠ requiredBase := by
            rintro rfl
            exact honly hbase
          exact ⟨.base, hrule, .otherBase, by simp [ScriptRule.breach?, hbase, hne], rfl⟩
  | statement line hkind hline hstatement =>
      have hexport := (is_export_line_eq_false_iff line).2 hstatement
      have hall : s.lines.all isExportLine = false :=
        List.all_eq_false.2 ⟨line, hline, by simp [hexport]⟩
      have hrule := (export_only_mem_iff s.kind).2 hkind
      exact ⟨.exportOnly, hrule, .notExport, by simp [ScriptRule.breach?, hall], rfl⟩

/-! ## The verdict -/

/-- A script is named as its file says. -/
theorem name_of_path {path : FilePath} {name : String}
    (h : nameOf (.ofFileName path.name) path = .ok name) : name.toList = bareName path := by
  unfold nameOf ScriptKind.scriptName? at h
  unfold bareName
  by_cases hkind : ScriptKind.ofFileName path.name = .behaviour
  · simp only [hkind, if_true] at h ⊢
    cases h
    rfl
  · simp only [hkind, if_false] at h ⊢
    split at h
    · next hname =>
        split at hname
        · next hstem =>
            cases h
            cases hname
            rw [hstem, String.toList_ofList]
            rfl
        · cases hname
    · cases h

/-- The verdict on a script with the header of its text reports what it breaks. -/
theorem verdict_reports (s : Script) (hheader : headers s.contents = .ok ⟨s.className, s.base⟩) :
    Reports (conventions s.kind) (Breaks s.kind s.name.toList s.contents.toList)
      ((s.verdict false).map ScriptBreach.code) := by
  rw [conventions_eq]
  refine reports_of_rules ?_ ?_ ?_ ?_
  · intro rule _ b hbreach
    rw [code_of_breach hbreach]
    exact List.mem_singleton_self _
  · rw [← conventions_eq]
    exact conventions_nodup s.kind
  · intro rule hrule b hbreach
    rw [code_of_breach hbreach]
    exact breaks_of_breach hheader hrule hbreach
  · intro code hbreaks
    exact breach_of_breaks hheader hbreaks

/-- The verdict on a script that is built reports the conventions that the name and the text of its
file break, each once and in the order for its kind. -/
theorem verdict_of_built_script {path : FilePath} {contents resource : String} {s : Script}
    (h : build path contents resource = .ok s) :
    Reports (conventions (.ofFileName path.name))
      (Breaks (.ofFileName path.name) (bareName path) contents.toList)
      ((s.verdict false).map ScriptBreach.code) := by
  obtain ⟨name, header, hname, hheader, rfl⟩ := build_eq_ok_iff.1 h
  rw [← name_of_path hname]
  refine verdict_reports ⟨path.name, name, path, resource, contents, .ofFileName path.name,
    header.className, header.base⟩ ?_
  exact hheader

/-- `sampleReference` is a reference with a class name and a variable that is neither typed nor
exported. -/
def sampleReference : Script where
  fullName := "r_Item.gd"
  name := "Item"
  path := ⟨.root, ["game", "r_Item.gd"]⟩
  resource := "res://r_Item.gd"
  contents := "class_name Item\nextends Node\nvar speed = 3\n"
  kind := .reference
  className := some "Item"
  base := some "Node"

/-- Three of the six conventions for references are broken by `sampleReference`. -/
theorem verdict_of_sample_reference :
    build sampleReference.path sampleReference.contents sampleReference.resource =
        .ok sampleReference ∧
      Reports (conventions .reference)
        (Breaks .reference "Item".toList sampleReference.contents.toList)
        ["static-typing", "reference-class-name", "export-only"] := by
  have hbuild : build sampleReference.path sampleReference.contents sampleReference.resource =
      .ok sampleReference := by rfl
  exact ⟨hbuild, verdict_of_built_script hbuild⟩

end SceneLint.Script
