import SceneLint.Project.Build
import SceneLint.Proofs.Script.HeaderGrammar
import SceneLint.Proofs.Text.Lines

/-!
# Headers on one line or on two

A class name and a base may be declared on one line or on two. The scan for headers takes both at
once or one after the other, with the same checks in the same order, so it ends alike but for the
numbers of the lines below (`scan_headers_layout`). A fault without its line number still has its
code and its message, and `header_layout_immaterial` says that a file is built or refused alike with
either layout, whatever stands above and below.
-/

namespace SceneLint

namespace ScriptFault

/-- `unnumbered fault` is a fault without the number of its line. -/
def unnumbered : ScriptFault → ScriptFault
  | .shortName kind => .shortName kind
  | .header _ fault text => .header 0 fault text
  | .repeatedClassName _ => .repeatedClassName 0
  | .repeatedBase _ => .repeatedBase 0

/-- A fault has the same code without the number of its line. -/
theorem code_unnumbered (fault : ScriptFault) :
    (BuildFault.script fault.unnumbered).code = (BuildFault.script fault).code := by
  cases fault <;> rfl

/-- A fault has the same message without the number of its line. -/
theorem message_unnumbered (fault : ScriptFault) (file : String) :
    (BuildFault.script fault.unnumbered).message file = (BuildFault.script fault).message file := by
  cases fault <;> rfl

end ScriptFault

namespace Script

open Header
open Text (StartsBare EndsBare)

/-- `IsWord word` says that a word is not empty and holds no blank. -/
def IsWord (word : List Char) : Prop :=
  word ≠ [] ∧ ∀ c ∈ word, Text.isBlank c = false

/-- `IsWord` is decided character by character. -/
instance (word : List Char) : Decidable (IsWord word) :=
  decidable_of_iff (word ≠ [] ∧ (word.all fun c => !Text.isBlank c) = true)
    (by simp [IsWord, List.all_eq_true])

/-- `nameLine name` declares a class name. -/
def nameLine (name : List Char) : List Char :=
  "class_name ".toList ++ name

/-- `baseLine base` declares a base. -/
def baseLine (base : List Char) : List Char :=
  "extends ".toList ++ base

/-- `headerLine name base` declares both on one line. -/
def headerLine (name base : List Char) : List Char :=
  "class_name ".toList ++ (name ++ " extends ".toList) ++ base

/-- `Alike path result result'` says that a file ends up as two scripts that differ in nothing but
their text, or is refused twice with one code and one message. -/
inductive Alike (path : FilePath) :
    Except ScriptFault Script → Except ScriptFault Script → Prop where
  | built (s contents) : Alike path (.ok s) (.ok { s with contents := contents })
  | refused (fault fault') :
      (BuildFault.script fault).code = (BuildFault.script fault').code →
      (BuildFault.script fault).message path.name = (BuildFault.script fault').message path.name →
      Alike path (.error fault) (.error fault')

variable {name base word lead : List Char} {path : FilePath} {contents contents' : String}

/-! ## The lines -/

/-- A word does not hold a blank. -/
theorem IsWord.not_mem (h : IsWord word) {c : Char} (hblank : Text.isBlank c = true) :
    c ∉ word := by
  intro hmem
  rw [h.2 c hmem] at hblank
  cases hblank

/-- A word starts with no blank. -/
theorem IsWord.starts_bare (h : IsWord word) : StartsBare word :=
  fun c hc => h.2 c (List.mem_of_head? hc)

/-- A text ends with no blank when a word ends it. -/
theorem IsWord.ends_bare (h : IsWord word) (lead : List Char) : EndsBare (lead ++ word) := by
  intro c hc
  rw [List.getLast?_append, List.getLast?_eq_some_getLast h.1, Option.some_or] at hc
  exact h.2 c (Option.mem_some.1 hc ▸ List.getLast_mem h.1)

/-- A line that starts with a keyword and ends with a word has no blanks at its ends. -/
theorem trim_keyword_line (fault : HeaderFault) (h : IsWord word) (lead : List Char) :
    Text.trim (fault.keyword.toList ++ lead ++ word) = fault.keyword.toList ++ lead ++ word := by
  have hgap : Text.Blanks [] := by simp [Text.Blanks]
  have hstart : StartsBare (fault.keyword.toList ++ lead ++ word) := by
    intro c hc
    cases fault <;>
      · cases hc
        decide
  exact Text.trim_append hgap hstart (h.ends_bare _)

/-- The line for a class name declares it. -/
theorem of_line_name_line (hname : IsWord name) :
    ofLine (nameLine name) = .ok ⟨some (String.ofList name), none⟩ := by
  have hform : Spelled (nameLine name) (.nameOnly [] name) := by
    refine ⟨⟨by simp [Text.Blanks], hname.1, hname.not_mem (by decide), hname.starts_bare⟩, ?_⟩
    exact trim_keyword_line .wordAfterClassName hname []
  exact of_line_of_spelled hform

/-- The line for a base declares it. -/
theorem of_line_base_line (hbase : IsWord base) :
    ofLine (baseLine base) = .ok ⟨none, some (String.ofList base)⟩ := by
  have hform : Spelled (baseLine base) (.baseOnly [' '] base) := by
    refine ⟨⟨by simp [Text.Blanks, Text.isBlank], hbase.not_mem (by decide), hbase.starts_bare⟩, ?_⟩
    exact trim_keyword_line .wordAfterBase hbase [' ']
  exact of_line_of_spelled hform

/-- The line for both declares both. -/
theorem of_line_header_line (hname : IsWord name) (hbase : IsWord base) :
    ofLine (headerLine name base) = .ok ⟨some (String.ofList name), some (String.ofList base)⟩ := by
  have hform : Spelled (headerLine name base) (.nameAndBase [] name [] base) := by
    refine ⟨⟨by simp [Text.Blanks], hname.1, hname.not_mem (by decide), hname.starts_bare,
      by simp [Text.Blanks], hbase.1, hbase.starts_bare⟩, ?_⟩
    have htrim := trim_keyword_line .wordAfterClassName hbase (name ++ " extends ".toList)
    exact htrim.trans (List.append_assoc _ _ _)
  exact of_line_of_spelled hform

/-! ## The scan -/

/-- A scan of lines goes on behind some of them from what these declare. -/
theorem scan_headers_append (number : Nat) (seen : Header) (before lines : List (List Char)) :
    scanHeaders number seen (before ++ lines) =
      scanHeaders number seen before >>= fun last =>
        scanHeaders (number + before.length) last lines := by
  induction before generalizing number seen with
  | nil => rfl
  | cons line before ih =>
      have hnumber : number + (line :: before).length = number + 1 + before.length := by
        rw [List.length_cons]
        omega
      rw [List.cons_append, scanHeaders, scanHeaders, hnumber]
      split
      · rfl
      · split
        · rfl
        · split
          · rfl
          · exact ih _ _

/-- A scan ends in the same way whatever the number of its first line. -/
theorem scan_headers_unnumbered (number number' : Nat) (seen : Header)
    (lines : List (List Char)) :
    (scanHeaders number seen lines).mapError ScriptFault.unnumbered =
      (scanHeaders number' seen lines).mapError ScriptFault.unnumbered := by
  induction lines generalizing number number' seen with
  | nil => rfl
  | cons line lines ih =>
      -- Numbers occur only in the faults; a line that passes leaves the other lines to be scanned.
      rw [scanHeaders, scanHeaders]
      split
      · rfl
      · split
        · rfl
        · split
          · rfl
          · exact ih _ _ _

/-- Two declarations are taken from one line as they are from two. -/
theorem scan_headers_two (hname : IsWord name) (hbase : IsWord base) (number : Nat) (seen : Header)
    (lines : List (List Char)) :
    (scanHeaders number seen (headerLine name base :: lines)).mapError ScriptFault.unnumbered =
      (scanHeaders number seen (nameLine name :: baseLine base :: lines)).mapError
        ScriptFault.unnumbered := by
  obtain ⟨className, seenBase⟩ := seen
  -- The class name is looked at first on either side, so a repeated one hides a repeated base.
  cases className with
  | some other =>
      have hone : scanHeaders number ⟨some other, seenBase⟩ (headerLine name base :: lines) =
          .error (.repeatedClassName number) := by
        simp [scanHeaders, of_line_header_line hname hbase]
      have htwo : scanHeaders number ⟨some other, seenBase⟩
          (nameLine name :: baseLine base :: lines) = .error (.repeatedClassName number) := by
        simp [scanHeaders, of_line_name_line hname]
      rw [hone, htwo]
  | none =>
      cases seenBase with
      | some other =>
          have hone : scanHeaders number ⟨none, some other⟩ (headerLine name base :: lines) =
              .error (.repeatedBase number) := by
            simp [scanHeaders, of_line_header_line hname hbase]
          have htwo : scanHeaders number ⟨none, some other⟩
              (nameLine name :: baseLine base :: lines) = .error (.repeatedBase (number + 1)) := by
            simp [scanHeaders, of_line_name_line hname, of_line_base_line hbase, orElse]
          rw [hone, htwo]
          rfl
      | none =>
          have hone : scanHeaders number ⟨none, none⟩ (headerLine name base :: lines) =
              scanHeaders (number + 1) ⟨some (String.ofList name), some (String.ofList base)⟩
                lines := by
            simp [scanHeaders, of_line_header_line hname hbase, orElse]
          have htwo : scanHeaders number ⟨none, none⟩ (nameLine name :: baseLine base :: lines) =
              scanHeaders (number + 2) ⟨some (String.ofList name), some (String.ofList base)⟩
                lines := by
            simp [scanHeaders, of_line_name_line hname, of_line_base_line hbase, orElse]
          rw [hone, htwo]
          exact scan_headers_unnumbered _ _ _ lines

/-- A scan ends alike with either layout of the header, whatever stands above and below. -/
theorem scan_headers_layout (hname : IsWord name) (hbase : IsWord base) (number : Nat)
    (seen : Header) (before after : List (List Char)) :
    (scanHeaders number seen (before ++ headerLine name base :: after)).mapError
        ScriptFault.unnumbered =
      (scanHeaders number seen (before ++ nameLine name :: baseLine base :: after)).mapError
        ScriptFault.unnumbered := by
  rw [scan_headers_append, scan_headers_append]
  cases scanHeaders number seen before with
  | error fault => rfl
  | ok last => exact scan_headers_two hname hbase _ last after

/-! ## The file -/

/-- Texts whose headers are read alike are built or refused alike. -/
theorem build_alike (resource : String)
    (h : (headers contents).mapError ScriptFault.unnumbered =
      (headers contents').mapError ScriptFault.unnumbered) :
    Alike path (build path contents resource) (build path contents' resource) := by
  simp only [build, bind, Except.bind]
  cases nameOf (.ofFileName path.name) path with
  | error fault => exact .refused fault fault rfl rfl
  | ok scriptName =>
      cases hread : headers contents with
      | ok header =>
          cases hread' : headers contents' with
          | error fault' =>
              rw [hread, hread'] at h
              cases h
          | ok header' =>
              rw [hread, hread'] at h
              obtain rfl : header = header' := Except.ok.inj h
              exact .built ⟨path.name, scriptName, path, resource, contents, .ofFileName path.name,
                header.className, header.base⟩ contents'
      | error fault =>
          cases hread' : headers contents' with
          | ok header' =>
              rw [hread, hread'] at h
              cases h
          | error fault' =>
              rw [hread, hread'] at h
              have hfault : fault.unnumbered = fault'.unnumbered := Except.error.inj h
              refine .refused fault fault' ?_ ?_
              · rw [← ScriptFault.code_unnumbered, hfault, ScriptFault.code_unnumbered]
              · rw [← ScriptFault.message_unnumbered, hfault, ScriptFault.message_unnumbered]

/-- A line that ends with a word is read from a text, if what stands before the word holds no
character of a line ending. -/
theorem lines_word_line (hword : IsWord word) (hfeed : '\n' ∉ lead) (hreturn : '\r' ∉ lead)
    (closed : Bool) (others : List (List Char)) :
    Text.lines (Text.ofLines closed ((lead ++ word) :: others)) =
      (lead ++ word) :: Text.lines (Text.ofLines closed others) := by
  refine Text.lines_of_lines_cons closed others ?_ ?_ ?_
  · exact List.append_ne_nil_of_right_ne_nil lead hword.1
  · rw [List.mem_append, not_or]
    exact ⟨hfeed, hword.not_mem (by decide)⟩
  · rw [List.mem_append, not_or]
    exact ⟨hreturn, hword.not_mem (by decide)⟩

/-- The headers of a file are read alike with either layout. -/
theorem headers_layout (hname : IsWord name) (hbase : IsWord base) (closed : Bool)
    (before after : List (List Char)) :
    (headers (String.ofList
        (Text.ofLines closed (before ++ headerLine name base :: after)))).mapError
        ScriptFault.unnumbered =
      (headers (String.ofList
        (Text.ofLines closed (before ++ nameLine name :: baseLine base :: after)))).mapError
        ScriptFault.unnumbered := by
  have hone : Text.lines (Text.ofLines closed (headerLine name base :: after)) =
      headerLine name base :: Text.lines (Text.ofLines closed after) := by
    have hfeed : '\n' ∉ name := hname.not_mem (by decide)
    have hreturn : '\r' ∉ name := hname.not_mem (by decide)
    refine lines_word_line hbase ?_ ?_ closed after
    · simp only [List.mem_append, not_or]
      exact ⟨by decide, hfeed, by decide⟩
    · simp only [List.mem_append, not_or]
      exact ⟨by decide, hreturn, by decide⟩
  have htwo : Text.lines (Text.ofLines closed (nameLine name :: baseLine base :: after)) =
      nameLine name :: baseLine base :: Text.lines (Text.ofLines closed after) := by
    have hbelow : Text.lines (Text.ofLines closed (baseLine base :: after)) =
        baseLine base :: Text.lines (Text.ofLines closed after) :=
      lines_word_line hbase (by decide) (by decide) closed after
    rw [← hbelow]
    exact lines_word_line hname (by decide) (by decide) closed (baseLine base :: after)
  rw [headers, headers, String.toList_ofList, String.toList_ofList,
    Text.lines_of_lines_append closed before (List.cons_ne_nil _ _), hone,
    Text.lines_of_lines_append closed before (List.cons_ne_nil _ _), htwo]
  exact scan_headers_layout hname hbase 1 empty _ _

/-- A file in which a class name and a base are declared on one line, and the same file with a line
for each, are built into scripts that differ in nothing but their text, or refused under one code
and with one message. -/
theorem header_layout_immaterial (hname : IsWord name) (hbase : IsWord base) (closed : Bool)
    (before after : List (List Char)) (path : FilePath) (resource : String) :
    Alike path
      (build path
        (String.ofList (Text.ofLines closed (before ++ [headerLine name base] ++ after))) resource)
      (build path
        (String.ofList
          (Text.ofLines closed (before ++ [nameLine name, baseLine base] ++ after))) resource) := by
  simp only [List.append_assoc, List.cons_append, List.nil_append]
  exact build_alike resource (headers_layout hname hbase closed before after)

/-- `itemPath` is the path of a behaviour. -/
def itemPath : FilePath := ⟨.root, ["game", "Item.gd"]⟩

/-- `itemText header` is a file with these header lines between a comment and another base. -/
def itemText (header : List (List Char)) : String :=
  String.ofList (Text.ofLines true (["# Item\r".toList] ++ header ++ [baseLine "Node2D".toList]))

/-- With either layout, a base below the header is refused, though not on the same line. -/
theorem header_layout_immaterial_item :
    IsWord "Item".toList ∧ IsWord "Node".toList ∧
    itemText [headerLine "Item".toList "Node".toList] =
      "# Item\r\nclass_name Item extends Node\nextends Node2D\n" ∧
    itemText [nameLine "Item".toList, baseLine "Node".toList] =
      "# Item\r\nclass_name Item\nextends Node\nextends Node2D\n" ∧
    Alike itemPath
      (build itemPath (itemText [headerLine "Item".toList "Node".toList]) "res://Item.gd")
      (build itemPath (itemText [nameLine "Item".toList, baseLine "Node".toList])
        "res://Item.gd") ∧
    build itemPath (itemText [headerLine "Item".toList "Node".toList]) "res://Item.gd" =
      .error (.repeatedBase 3) ∧
    build itemPath (itemText [nameLine "Item".toList, baseLine "Node".toList]) "res://Item.gd" =
      .error (.repeatedBase 4) := by
  have hname : IsWord "Item".toList := by decide
  have hbase : IsWord "Node".toList := by decide
  refine ⟨hname, hbase, by decide, by decide, ?_, by rfl, by rfl⟩
  exact header_layout_immaterial hname hbase true ["# Item\r".toList] [baseLine "Node2D".toList]
    itemPath "res://Item.gd"

end Script

end SceneLint
