import SceneLint.Proofs.Script.HeaderGrammar
import SceneLint.Proofs.Script.StaticTyping
import SceneLint.Proofs.Script.Verdict
import SceneLint.Proofs.Text.Lines

/-!
# What a script that exports only may hold

A value or a reference is to hold headers, comments, blank lines and exported variables. The rule
for this takes every line with the letters of the keyword for a class name for a header, but the
grammar of headers asks for a space behind them. `accepted_lines` says how far the two are apart:
the other lines of a script that passes are those in which something else is glued to the keyword,
and nearly any such line can be put on top of it. `statement_accepted` is a script with a call
among its declarations.
-/

namespace SceneLint.Script

open Header

/-- `IsPlain line` says that a line is blank, a comment, an exported variable or a header. -/
def IsPlain (line : List Char) : Prop :=
  Text.trim line = [] ∨ "#".toList <+: Text.trim line ∨ "@export var ".toList <+: Text.trim line ∨
    ∃ here, ofLine line = .ok here ∧ here ≠ empty

/-- `IsGlued line` says that a line starts with the letters of the keyword for a class name, but
with no space behind them. -/
def IsGlued (line : List Char) : Prop :=
  "class_name".toList <+: Text.trim line ∧ ¬ "class_name ".toList <+: Text.trim line

/-- `headed line s` is a script with one more line on top. -/
def headed (line : List Char) (s : Script) : Script :=
  { s with contents := String.ofList line ++ "\n" ++ s.contents }

variable {line before cs : List Char} {lines : List (List Char)} {s : Script} {rule : ScriptRule}
  {failFast : Bool} {here seen last : Header} {number : Nat} {path : FilePath}
  {contents resource : String}

/-! ## Plain and glued lines -/

/-- A glued line declares nothing. -/
theorem IsGlued.of_line (h : IsGlued line) : ofLine line = .ok empty := by
  obtain ⟨⟨rest, hrest⟩, hspace⟩ := h
  refine of_line_empty_iff.2 ⟨hspace, ?_⟩
  rw [← hrest]
  simp

/-- A glued line is not plain. -/
theorem IsGlued.not_plain (h : IsGlued line) : ¬ IsPlain line := by
  obtain ⟨rest, hrest⟩ := h.1
  rintro (hblank | hcomment | hexport | ⟨here, hread, hne⟩)
  · rw [← hrest] at hblank
    simp at hblank
  · rw [← hrest] at hcomment
    simp at hcomment
  · rw [← hrest] at hexport
    simp at hexport
  · rw [h.of_line, Except.ok.injEq] at hread
    exact hne hread.symm

/-- A line that is read is a header when it starts with a keyword. -/
theorem ne_empty_iff (hread : ofLine line = .ok here) : here ≠ empty ↔
    "class_name ".toList <+: Text.trim line ∨ "extends".toList <+: Text.trim line := by
  have hempty : here = empty ↔
      ¬ "class_name ".toList <+: Text.trim line ∧ ¬ "extends".toList <+: Text.trim line := by
    rw [← of_line_empty_iff, hread, Except.ok.injEq]
  rw [Ne, hempty, ← not_or, Classical.not_not]

/-- The rule lets a line pass when it is plain or glued. -/
theorem is_export_line_iff (hread : ofLine line = .ok here) :
    isExportLine line = true ↔ IsPlain line ∨ IsGlued line := by
  simp only [isExportLine, Bool.or_eq_true, List.isEmpty_iff, List.isPrefixOf_iff_prefix]
  constructor
  · rintro ((((hblank | hclass) | hbase) | hcomment) | hexport)
    · exact .inl (.inl hblank)
    · by_cases hspace : "class_name ".toList <+: Text.trim line
      · have hne := (ne_empty_iff hread).2 (.inl hspace)
        exact .inl (.inr (.inr (.inr ⟨here, hread, hne⟩)))
      · exact .inr ⟨hclass, hspace⟩
    · have hne := (ne_empty_iff hread).2 (.inr hbase)
      exact .inl (.inr (.inr (.inr ⟨here, hread, hne⟩)))
    · exact .inl (.inr (.inl hcomment))
    · exact .inl (.inr (.inr (.inl hexport)))
  · rintro ((hblank | hcomment | hexport | ⟨here, hread, hne⟩) | ⟨hclass, _⟩)
    · exact .inl (.inl (.inl (.inl hblank)))
    · exact .inl (.inr hcomment)
    · exact .inr hexport
    · rcases (ne_empty_iff hread).1 hne with hclass | hbase
      · have hletters : "class_name".toList <+: "class_name ".toList := ⟨[' '], rfl⟩
        exact .inl (.inl (.inl (.inr (hletters.trans hclass))))
      · exact .inl (.inl (.inr hbase))
    · exact .inl (.inl (.inl (.inr hclass)))

/-- A script passes when it breaks none of its rules. -/
theorem verdict_eq_nil_iff :
    s.verdict failFast = [] ↔ ∀ rule ∈ ScriptRule.rulesFor s.kind, rule.breach? s = none := by
  have hbreaches : s.verdict failFast = [] ↔ s.breaches = [] := by
    cases failFast with
    | false => rfl
    | true => simp [verdict]
  rw [hbreaches, breaches, List.filterMap_eq_nil_iff]

/-- A script is as the rule asks when all its lines are. -/
theorem export_only_iff :
    ScriptRule.exportOnly.breach? s = none ↔ ∀ line ∈ s.lines, isExportLine line = true := by
  simp [ScriptRule.breach?]

/-! ## A glued line on top -/

/-- A segment that starts behind a line starts in the text behind it. -/
theorem starts_behind_break (h : Starts (line ++ ['\n'] ++ before)) : Starts before := by
  rcases h with hnil | ⟨lead, heq, hopens⟩
  · simp at hnil
  · rcases List.append_eq_append_iff.1 heq with ⟨rest, rfl, rfl⟩ | ⟨rest, hbreak, hkeyword⟩
    · refine .inr ⟨rest, rfl, ?_⟩
      rcases List.eq_nil_or_concat rest with rfl | ⟨rest, c, rfl⟩
      · rfl
      · rw [List.concat_eq_append, ← List.append_assoc, opens_append_singleton] at hopens
        rw [List.concat_eq_append, opens_append_singleton]
        exact hopens
    · -- The keyword holds no line feed, so it does not start before the end of the line.
      rcases List.eq_nil_or_concat rest with rfl | ⟨rest, c, rfl⟩
      · exact .inr ⟨[], by simpa using hkeyword.symm, rfl⟩
      · rw [List.concat_eq_append, ← List.append_assoc] at hbreak
        obtain ⟨_, hc⟩ := List.append_inj' hbreak rfl
        obtain rfl := List.head_eq_of_cons_eq hc
        have hmem : '\n' ∈ keyword := by
          rw [hkeyword]
          simp
        exact absurd hmem (by decide)

/-- A line without an equals sign on top makes no segment untyped. -/
theorem any_untyped_behind_break (hline : '=' ∉ line)
    (h : (segments (line ++ ['\n'] ++ cs)).any isUntyped = true) :
    (segments cs).any isUntyped = true := by
  obtain ⟨before, mid, tail, heq, hstart, hfree⟩ := (any_untyped_iff _).1 h
  obtain ⟨front, hfront, rfl⟩ : ∃ front, before ++ mid = line ++ ['\n'] ++ front ∧
      cs = front ++ '=' :: tail := by
    rcases List.append_eq_append_iff.1 heq with ⟨front, hfront, hcs⟩ | ⟨rest, hbreak, htail⟩
    · exact ⟨front, hfront, hcs⟩
    · cases rest with
      | nil => exact ⟨[], by simpa using hbreak.symm, by simpa using htail.symm⟩
      | cons c rest =>
          obtain ⟨rfl, _⟩ := List.cons.inj htail
          have hmem : '=' ∈ line ++ ['\n'] := by
            rw [hbreak]
            simp
          simp [hline] at hmem
  rcases List.append_eq_append_iff.1 hfront with ⟨rest, _, rfl⟩ | ⟨rest, rfl, rfl⟩
  · have hrest : ':' ∉ front := fun hmem => hfree (List.mem_append_right _ hmem)
    exact (any_untyped_iff _).2 ⟨[], front, tail, rfl, .inl rfl, hrest⟩
  · exact (any_untyped_iff _).2 ⟨rest, mid, tail, rfl, starts_behind_break hstart, hfree⟩

/-- A scan that succeeds does so whatever the number of its first line. -/
theorem scan_headers_number (h : scanHeaders number seen lines = .ok last) (number' : Nat) :
    scanHeaders number' seen lines = .ok last := by
  induction lines generalizing number seen number' with
  | nil => exact h
  | cons line lines ih =>
      rw [scanHeaders] at h ⊢
      split at h
      · cases h
      · next here hhere =>
          split at h
          · cases h
          · next hclass =>
              split at h
              · cases h
              · next hbase =>
                  simp only [if_neg hclass, if_neg hbase]
                  exact ih h (number' + 1)

/-- A line that declares nothing changes no header of the file below it. -/
theorem scan_headers_on_top (hline : ofLine line = .ok empty)
    (h : scanHeaders 1 .empty lines = .ok last) :
    scanHeaders 1 .empty (line :: lines) = .ok last := by
  rw [scanHeaders, hline]
  exact scan_headers_number h 2

/-- The text of a script with one more line on top. -/
theorem to_list_headed (line : List Char) (s : Script) :
    (s.headed line).contents.toList = line ++ ['\n'] ++ s.contents.toList := by
  simp [headed]

/-- The lines of a script with one more line on top. -/
theorem lines_headed (hfeed : '\n' ∉ line) (hreturn : '\r' ∉ line) (s : Script) :
    (s.headed line).lines = line :: s.lines := by
  rw [Script.lines, to_list_headed, List.append_assoc, List.singleton_append,
    Text.lines_append_cons hfeed, Text.drop_return_of_not_mem hreturn, Script.lines]

/-- A script is still built with a glued line on top. -/
theorem build_headed (h : build path contents resource = .ok s) (hglued : IsGlued line)
    (hfeed : '\n' ∉ line) (hreturn : '\r' ∉ line) :
    build path (s.headed line).contents resource = .ok (s.headed line) := by
  have hlines := lines_headed hfeed hreturn s
  rw [Script.lines, Script.lines] at hlines
  obtain ⟨name, header, hname, hheaders, rfl⟩ := build_eq_ok_iff.1 h
  refine build_eq_ok_iff.2 ⟨name, header, hname, ?_, rfl⟩
  rw [headers, hlines]
  exact scan_headers_on_top hglued.of_line hheaders

/-- A rule that a script keeps is kept with a glued line on top, if that assigns nothing and names
no node path. -/
theorem breach?_headed (hglued : IsGlued line) (hfree : ∀ c ∈ ['\n', '\r', '$', '='], c ∉ line)
    (h : rule.breach? s = none) : rule.breach? (s.headed line) = none := by
  cases rule with
  | naming => exact h
  | className => exact h
  | noClassName => exact h
  | base => exact h
  | nodePath =>
      have hline : '$' ∉ line := hfree '$' (by simp)
      simp only [ScriptRule.breach?, to_list_headed] at h ⊢
      simpa [hline] using h
  | staticTyping =>
      have hline : '=' ∉ line := hfree '=' (by simp)
      simp only [ScriptRule.breach?, to_list_headed, ite_eq_right_iff, reduceCtorEq] at h ⊢
      exact fun huntyped => h (any_untyped_behind_break hline huntyped)
  | exportOnly =>
      rw [export_only_iff] at h ⊢
      rw [lines_headed (hfree '\n' (by simp)) (hfree '\r' (by simp)), List.forall_mem_cons]
      exact ⟨(is_export_line_iff hglued.of_line).2 (.inr hglued), h⟩

/-! ## What passes -/

/-- In a value or a reference that passes, the lines that are not plain are the glued ones. There is
no limit to them: a glued line that assigns nothing and names no node path can be put on top of any
script that passes, and it passes again. -/
theorem accepted_lines (h : build path contents resource = .ok s) (hkind : s.kind ≠ .behaviour)
    (hpass : s.verdict failFast = []) :
    (∀ line ∈ s.lines, ¬ IsPlain line ↔ IsGlued line) ∧
    ∀ line, IsGlued line → (∀ c ∈ ['\n', '\r', '$', '='], c ∉ line) →
      build path (s.headed line).contents resource = .ok (s.headed line) ∧
        (s.headed line).verdict failFast = [] ∧ line ∈ (s.headed line).lines := by
  rw [verdict_eq_nil_iff] at hpass
  constructor
  · have hexport := export_only_iff.1 (hpass _ ((export_only_mem_iff s.kind).2 hkind))
    obtain ⟨name, header, _, hheaders, rfl⟩ := build_eq_ok_iff.1 h
    obtain ⟨hread, _⟩ := scan_headers_ok hheaders
    intro line hline
    obtain ⟨here, hhere⟩ := hread line hline
    constructor
    · intro hplain
      exact ((is_export_line_iff hhere).1 (hexport line hline)).resolve_left hplain
    · exact IsGlued.not_plain
  · intro line hglued hfree
    have hfeed : '\n' ∉ line := hfree '\n' (by simp)
    have hreturn : '\r' ∉ line := hfree '\r' (by simp)
    refine ⟨build_headed h hglued hfeed hreturn, ?_, ?_⟩
    · rw [verdict_eq_nil_iff]
      intro rule hrule
      exact breach?_headed hglued hfree (hpass rule hrule)
    · rw [lines_headed hfeed hreturn]
      exact List.mem_cons_self

/-- `sampleValue` is a value with an exported variable and a call. -/
def sampleValue : Script where
  fullName := "v_Item.gd"
  name := "Item"
  path := ⟨.root, ["game", "v_Item.gd"]⟩
  resource := "res://v_Item.gd"
  contents := "class_name Item\nextends Node\n@export var price: int = 3\nclass_nameless()\n"
  kind := .value
  className := some "Item"
  base := some "Node"

/-- The lines of `sampleValue` that are not plain are the glued ones. -/
theorem accepted_lines_sample :
    build sampleValue.path sampleValue.contents sampleValue.resource = .ok sampleValue ∧
      sampleValue.verdict true = [] ∧
      ∀ line ∈ sampleValue.lines, ¬ IsPlain line ↔ IsGlued line := by
  have hbuild : build sampleValue.path sampleValue.contents sampleValue.resource =
      .ok sampleValue := by rfl
  have hpass : sampleValue.verdict true = [] := by rfl
  exact ⟨hbuild, hpass, (accepted_lines hbuild (by decide) hpass).1⟩

/-- The call in `sampleValue` passes all its rules, though it is no header for the reader of lines,
and neither blank nor a comment nor an exported variable. -/
theorem statement_accepted :
    build sampleValue.path sampleValue.contents sampleValue.resource = .ok sampleValue ∧
      sampleValue.kind = .value ∧ (∀ failFast, sampleValue.verdict failFast = []) ∧
      "class_nameless()".toList ∈ sampleValue.lines ∧ ¬ IsPlain "class_nameless()".toList := by
  refine ⟨by rfl, by rfl, fun failFast => by cases failFast <;> rfl, by decide, ?_⟩
  refine IsGlued.not_plain ⟨⟨"less()".toList, by rfl⟩, ?_⟩
  rw [← List.isPrefixOf_iff_prefix]
  decide

end SceneLint.Script
