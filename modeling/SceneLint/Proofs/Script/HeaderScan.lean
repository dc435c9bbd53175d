import SceneLint.Project.Build
import SceneLint.Proofs.Script.Headers

/-!
# The first fault in the headers of a script

`Offends lines i` says of the line at index `i` that it cannot be read or repeats what an earlier
line declares, without scanning. A scan that has passed some lines knows of them only what they
declare (`Seen`), and that is enough: `scan_headers_result` goes on from there, line by line.
`headers_first_fault` says that a file fails exactly when some line offends, with the fault of the
first such line, and that otherwise no two lines declare the same thing.
-/

namespace SceneLint.Script

open Header

/-- `DeclaredAt declared lines i` says that the line at index `i` declares something. -/
def DeclaredAt (declared : List Char → Option String) (lines : List (List Char)) (i : Nat) : Prop :=
  ∃ line, lines[i]? = some line ∧ (declared line).isSome = true

/-- `Repeats declared lines i` says that the line at index `i` declares something although an
earlier line does. -/
def Repeats (declared : List Char → Option String) (lines : List (List Char)) (i : Nat) : Prop :=
  DeclaredAt declared lines i ∧ ∃ j < i, DeclaredAt declared lines j

/-- `Unreadable lines i` says that the line at index `i` is against the grammar of header lines. -/
def Unreadable (lines : List (List Char)) (i : Nat) : Prop :=
  ∃ line, lines[i]? = some line ∧ ∃ fault, ofLine line = .error fault

/-- `Offends lines i` says that the line at index `i` is one that no script may have. -/
def Offends (lines : List (List Char)) (i : Nat) : Prop :=
  Unreadable lines i ∨ Repeats declaredClass lines i ∨ Repeats declaredBase lines i

/-- `FaultAt lines i fault` says what is wrong with the line at index `i`. A line that repeats both
declarations is at fault for its class name. -/
inductive FaultAt (lines : List (List Char)) (i : Nat) : ScriptFault → Prop where
  | unreadable (line fault) :
      lines[i]? = some line → ofLine line = .error fault →
      FaultAt lines i (.header (i + 1) fault (String.ofList (Text.trim line)))
  | repeatedClassName :
      ¬ Unreadable lines i → Repeats declaredClass lines i →
      FaultAt lines i (.repeatedClassName (i + 1))
  | repeatedBase :
      ¬ Unreadable lines i → ¬ Repeats declaredClass lines i → Repeats declaredBase lines i →
      FaultAt lines i (.repeatedBase (i + 1))

/-- `ScanResult lines result` says that the result of a scan is the fault of the first line that
offends, or that no line does. -/
inductive ScanResult (lines : List (List Char)) : Except ScriptFault Header → Prop where
  | failed (i fault) :
      FaultAt lines i fault → (∀ j < i, ¬ Offends lines j) → ScanResult lines (.error fault)
  | read (header) : (∀ i, ¬ Offends lines i) → ScanResult lines (.ok header)

/-- `Seen before seen` says that a header holds a declaration of each kind that some line has. -/
structure Seen (before : List (List Char)) (seen : Header) : Prop where
  className : seen.className.isSome = true ↔ ∃ line ∈ before, (declaredClass line).isSome = true
  base : seen.base.isSome = true ↔ ∃ line ∈ before, (declaredBase line).isSome = true

variable {declared : List Char → Option String} {before lines : List (List Char)}
  {line : List Char} {seen here : Header} {fault : ScriptFault} {i : Nat}

/-! ## One line -/

/-- A line repeats something that a line before it declares. -/
theorem repeats_iff (declared : List Char → Option String) (before lines : List (List Char))
    (line : List Char) :
    Repeats declared (before ++ line :: lines) before.length ↔
      (declared line).isSome = true ∧ ∃ l ∈ before, (declared l).isSome = true := by
  have hdeclared : DeclaredAt declared (before ++ line :: lines) before.length ↔
      (declared line).isSome = true := by
    simp [DeclaredAt]
  rw [Repeats, hdeclared]
  refine and_congr_right fun _ => ?_
  constructor
  · rintro ⟨j, hj, l, hl, hdeclared⟩
    rw [List.getElem?_append_left hj] at hl
    exact ⟨l, List.mem_of_getElem? hl, hdeclared⟩
  · rintro ⟨l, hmem, hdeclared⟩
    obtain ⟨j, hj, rfl⟩ := List.getElem_of_mem hmem
    exact ⟨j, hj, before[j], by simp [List.getElem?_append_left hj], hdeclared⟩

/-- A line is unreadable at its index when it is against the grammar. -/
theorem unreadable_iff (before lines : List (List Char)) (line : List Char) :
    Unreadable (before ++ line :: lines) before.length ↔ ∃ fault, ofLine line = .error fault := by
  simp [Unreadable]

/-- A line that is read adds its declarations to those seen. -/
theorem Seen.concat (hseen : Seen before seen) (hline : ofLine line = .ok here) :
    Seen (before ++ [line]) (here.orElse seen) where
  className := by
    have hdeclared : declaredClass line = here.className := by rw [declaredClass, hline]
    simp only [List.mem_append, List.mem_singleton, or_and_right, exists_or, exists_eq_left,
      ← hseen.className, hdeclared, orElse]
    cases here.className <;> simp
  base := by
    have hdeclared : declaredBase line = here.base := by rw [declaredBase, hline]
    simp only [List.mem_append, List.mem_singleton, or_and_right, exists_or, exists_eq_left,
      ← hseen.base, hdeclared, orElse]
    cases here.base <;> simp

/-- A scan that has passed some lines stops at the next one with its fault, or passes it when it
does not offend. -/
theorem scan_headers_step (hseen : Seen before seen) (line : List Char)
    (lines : List (List Char)) :
    (∃ fault, FaultAt (before ++ line :: lines) before.length fault ∧
      scanHeaders (before.length + 1) seen (line :: lines) = .error fault) ∨
    ∃ here, ofLine line = .ok here ∧ ¬ Offends (before ++ line :: lines) before.length ∧
      scanHeaders (before.length + 1) seen (line :: lines) =
        scanHeaders (before.length + 2) (here.orElse seen) lines := by
  have hfound : (before ++ line :: lines)[before.length]? = some line := by simp
  have hunreadable := unreadable_iff before lines line
  have hclass := repeats_iff declaredClass before lines line
  have hbase := repeats_iff declaredBase before lines line
  rw [← hseen.className, declaredClass] at hclass
  rw [← hseen.base, declaredBase] at hbase
  rw [scanHeaders]
  cases hline : ofLine line with
  | error fault => exact .inl ⟨_, .unreadable line fault hfound hline, rfl⟩
  | ok here =>
      simp only [hline, reduceCtorEq, exists_false, iff_false] at hunreadable
      simp only [hline, ← Bool.and_eq_true] at hclass hbase
      -- The class name is looked at first, so a repeated base counts only without a repeated name.
      by_cases hname : Repeats declaredClass (before ++ line :: lines) before.length
      · exact .inl ⟨_, .repeatedClassName hunreadable hname, if_pos (hclass.1 hname)⟩
      · by_cases hextends : Repeats declaredBase (before ++ line :: lines) before.length
        · refine .inl ⟨_, .repeatedBase hunreadable hname hextends, ?_⟩
          exact (if_neg (mt hclass.2 hname)).trans (if_pos (hbase.1 hextends))
        · refine .inr ⟨here, rfl, ?_, ?_⟩
          · rintro (hoffends | hoffends | hoffends)
            · exact hunreadable hoffends
            · exact hname hoffends
            · exact hextends hoffends
          · exact (if_neg (mt hclass.2 hname)).trans (if_neg (mt hbase.2 hextends))

/-! ## All lines -/

/-- A fault is one of a line that offends. -/
theorem FaultAt.offends (h : FaultAt lines i fault) : Offends lines i := by
  cases h with
  | unreadable line fault hline hfault => exact .inl ⟨line, hline, fault, hfault⟩
  | repeatedClassName _ hrepeats => exact .inr (.inl hrepeats)
  | repeatedBase _ _ hrepeats => exact .inr (.inr hrepeats)

/-- A line that offends is one of the lines. -/
theorem Offends.lt (h : Offends lines i) : i < lines.length := by
  rcases h with ⟨line, hline, _⟩ | ⟨⟨line, hline, _⟩, _⟩ | ⟨⟨line, hline, _⟩, _⟩ <;>
    exact (List.getElem?_eq_some_iff.1 hline).1

/-- A scan that has passed lines without an offence finds the first one behind them. -/
theorem scan_headers_result (hseen : Seen before seen)
    (hclean : ∀ j < before.length, ¬ Offends (before ++ lines) j) :
    ScanResult (before ++ lines) (scanHeaders (before.length + 1) seen lines) := by
  -- What the passed lines declare is all that the scan carries on, so they grow by one line each.
  induction lines generalizing before seen with
  | nil =>
      refine .read _ fun i hoffends => ?_
      rw [List.append_nil] at hclean hoffends
      exact hclean i hoffends.lt hoffends
  | cons line lines ih =>
      rcases scan_headers_step hseen line lines with ⟨fault, hfault, hscan⟩ |
        ⟨here, hline, hnot, hscan⟩
      · rw [hscan]
        exact .failed before.length fault hfault hclean
      · have hnext : ∀ j < (before ++ [line]).length, ¬ Offends (before ++ [line] ++ lines) j := by
          intro j hj
          rw [List.length_append, List.length_singleton, Nat.lt_succ_iff_lt_or_eq] at hj
          rw [List.append_assoc, List.singleton_append]
          rcases hj with hj | rfl
          · exact hclean j hj
          · exact hnot
        have hresult := ih (hseen.concat hline) hnext
        rw [List.append_assoc, List.singleton_append, List.length_append,
          List.length_singleton] at hresult
        rw [hscan]
        exact hresult

/-- The headers of a file are the result of a scan of its lines. -/
theorem headers_result (contents : String) :
    ScanResult (Text.lines contents.toList) (headers contents) := by
  have hseen : Seen [] empty := ⟨by simp [empty], by simp [empty]⟩
  exact scan_headers_result hseen fun j hj => absurd hj (Nat.not_lt_zero j)

/-! ## What a file fails with -/

/-- `CodeAt lines i code` says under which code the line at index `i` is reported. -/
inductive CodeAt (lines : List (List Char)) (i : Nat) : String → Prop where
  | unreadable : Unreadable lines i → CodeAt lines i "header"
  | repeatedClassName :
      ¬ Unreadable lines i → Repeats declaredClass lines i →
      CodeAt lines i "duplicate-class-name"
  | repeatedBase :
      ¬ Unreadable lines i → ¬ Repeats declaredClass lines i → Repeats declaredBase lines i →
      CodeAt lines i "duplicate-extends"

/-- A fault is reported under the code for its line. -/
theorem FaultAt.code (h : FaultAt lines i fault) :
    CodeAt lines i (BuildFault.script fault).code := by
  cases h with
  | unreadable line fault hline hfault => exact .unreadable ⟨line, hline, fault, hfault⟩
  | repeatedClassName hreadable hrepeats => exact .repeatedClassName hreadable hrepeats
  | repeatedBase hreadable hname hrepeats => exact .repeatedBase hreadable hname hrepeats

/-- The details of a fault give the number of its line. -/
theorem FaultAt.details_line (h : FaultAt lines i fault) :
    ((BuildFault.script fault).details.getD []).lookup "line" = some (.int (i + 1)) := by
  cases h <;> rfl

/-! ## What a file declares -/

/-- `OnlyDeclared declared lines word` says that exactly one of the lines declares something, and
that it declares `word`. -/
def OnlyDeclared (declared : List Char → Option String) (lines : List (List Char))
    (word : String) : Prop :=
  ∃ before line after, lines = before ++ line :: after ∧ declared line = some word ∧
    ∀ other ∈ before ++ after, declared other = none

/-- What is collected from lines is declared by the only line that declares something, or by
none. -/
theorem collected_iff {found : Option String} (h : found.toList = lines.filterMap declared) :
    (∀ word, found = some word ↔ OnlyDeclared declared lines word) ∧
      (found = none ↔ ∀ line ∈ lines, declared line = none) := by
  constructor
  · intro word
    rw [← Option.toList_eq_singleton_iff, h, filter_map_eq_singleton_iff, OnlyDeclared]
  · rw [← Option.toList_eq_nil_iff, h, List.filterMap_eq_nil_iff]

/-- Where no line repeats a declaration, one line at most makes it. -/
theorem declared_at_unique (h : ∀ i, ¬ Repeats declared lines i) {j : Nat}
    (hi : DeclaredAt declared lines i) (hj : DeclaredAt declared lines j) : i = j := by
  rcases Nat.lt_trichotomy i j with hlt | heq | hlt
  · exact absurd ⟨hj, i, hlt, hi⟩ (h j)
  · exact heq
  · exact absurd ⟨hi, j, hlt, hj⟩ (h i)

/-- The headers of a file fail exactly when some line offends, and then with the code and the number
of the first such line. Otherwise the file declares what the only line with a declaration does, and
no script that is built of it has two such lines, even if the declared word is empty. -/
theorem headers_first_fault (contents : String) :
    ((∃ fault, headers contents = .error fault) ↔
      ∃ i, Offends (Text.lines contents.toList) i) ∧
    (∀ fault, headers contents = .error fault →
      ∃ i, Offends (Text.lines contents.toList) i ∧
        (∀ j < i, ¬ Offends (Text.lines contents.toList) j) ∧
        CodeAt (Text.lines contents.toList) i (BuildFault.script fault).code ∧
        ((BuildFault.script fault).details.getD []).lookup "line" = some (.int (i + 1))) ∧
    (∀ header, headers contents = .ok header →
      (∀ name, header.className = some name ↔
        OnlyDeclared declaredClass (Text.lines contents.toList) name) ∧
      (header.className = none ↔
        ∀ line ∈ Text.lines contents.toList, declaredClass line = none) ∧
      (∀ base, header.base = some base ↔
        OnlyDeclared declaredBase (Text.lines contents.toList) base) ∧
      (header.base = none ↔ ∀ line ∈ Text.lines contents.toList, declaredBase line = none)) ∧
    ∀ path resource s, build path contents resource = .ok s →
      (∀ i j, DeclaredAt declaredClass s.lines i → DeclaredAt declaredClass s.lines j → i = j) ∧
      ∀ i j, DeclaredAt declaredBase s.lines i → DeclaredAt declaredBase s.lines j → i = j := by
  have hresult := headers_result contents
  refine ⟨?_, ?_, ?_, ?_⟩
  · cases hheaders : headers contents with
    | error fault =>
        rw [hheaders] at hresult
        cases hresult with
        | failed i _ hfault _ => exact ⟨fun _ => ⟨i, hfault.offends⟩, fun _ => ⟨fault, rfl⟩⟩
    | ok header =>
        rw [hheaders] at hresult
        cases hresult with
        | read _ hclean =>
            constructor
            · rintro ⟨fault, hfault⟩
              cases hfault
            · rintro ⟨i, hoffends⟩
              exact absurd hoffends (hclean i)
  · intro fault hheaders
    rw [hheaders] at hresult
    cases hresult with
    | failed i _ hfault hfirst =>
        exact ⟨i, hfault.offends, hfirst, hfault.code, hfault.details_line⟩
  · intro header hheaders
    obtain ⟨_, hclass⟩ := class_name_of_headers hheaders
    obtain ⟨_, hbase⟩ := base_of_headers hheaders
    exact ⟨(collected_iff hclass).1, (collected_iff hclass).2, (collected_iff hbase).1,
      (collected_iff hbase).2⟩
  · intro path resource s hbuild
    obtain ⟨name, header, _, hheaders, rfl⟩ := build_eq_ok_iff.1 hbuild
    rw [hheaders] at hresult
    cases hresult with
    | read _ hclean =>
        constructor
        · intro i j
          exact declared_at_unique fun k hrepeats => hclean k (.inr (.inl hrepeats))
        · intro i j
          exact declared_at_unique fun k hrepeats => hclean k (.inr (.inr hrepeats))

/-- A base that is empty is declared all the same. -/
example : headers "extends\n\nextends\n" = .error (.repeatedBase 3) := rfl

end SceneLint.Script
