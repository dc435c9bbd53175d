import SceneLint.Proofs.Text.Search
import SceneLint.Script.Basic

/-!
# What the lines of a script declare

`DeclaresClass line name` and `DeclaresBase line base` say what a line declares, as a grammar of
lines. `declares_class_iff` and `declares_base_iff` compare them with what `Header.ofLine` reads.
`scan_headers_cons` is one step of the scan over a file and `scan_headers_ok` the whole scan: a file
that is read declares each thing on at most one line, and the header of the file is what that line
declares.
-/

namespace SceneLint

namespace Header

/-- `ClassWords line words` says that a line has `words` behind the keyword for a class name. -/
def ClassWords (line words : List Char) : Prop :=
  ∃ rest, Text.trim line = "class_name ".toList ++ rest ∧ Text.trim rest = words

/-- `DeclaresClass line name` says that a line declares the class name `name`, which holds no space:
alone, or before a base. -/
inductive DeclaresClass (line : List Char) : List Char → Prop where
  | alone (name) :
      ClassWords line name → ' ' ∉ name → DeclaresClass line name
  | extending (name base) :
      ClassWords line (name ++ " extends ".toList ++ base) → ' ' ∉ name → DeclaresClass line name

/-- `DeclaresBase line base` says that a line declares the base `base`: behind a class name, or
alone and then without a space. -/
inductive DeclaresBase (line : List Char) : List Char → Prop where
  | behindClass (name rest) :
      ClassWords line (name ++ " extends ".toList ++ rest) → ' ' ∉ name →
      DeclaresBase line (Text.trim rest)
  | alone (rest) :
      Text.trim line = "extends".toList ++ rest → ' ' ∉ Text.trim rest →
      DeclaresBase line (Text.trim rest)

variable {line name base words rest : List Char} {here : Header}

/-! ## Reading a line -/

/-- A line with the keyword for a class name is read by its words. -/
theorem of_line_of_class_words (h : ClassWords line words) : ofLine line = ofClassWords words := by
  obtain ⟨rest, hline, rfl⟩ := h
  rw [ofLine, ofTrimmed, List.isPrefixOf?_eq_some_iff_append_eq.2 hline.symm]

/-- A single word is a class name. -/
theorem of_class_words_alone (h : ' ' ∉ name) :
    ofClassWords name = .ok ⟨some (String.ofList name), none⟩ := by
  rw [ofClassWords, Text.cut?_char_eq_none_iff.2 h]

/-- A word, the keyword for a base and a rest are a class name and a base. -/
theorem of_class_words_extending (h : ' ' ∉ name) (base : List Char) :
    ofClassWords (name ++ " extends ".toList ++ base) =
      .ok ⟨some (String.ofList name), some (String.ofList (Text.trim base))⟩ := by
  have hcut : Text.cut? [' '] (name ++ " extends ".toList ++ base) =
      some (name, "extends ".toList ++ base) :=
    Text.cut?_char_eq_some_iff.2 ⟨by simp, h⟩
  have hafter : "extends ".toList.isPrefixOf? ("extends ".toList ++ base) = some base :=
    List.isPrefixOf?_eq_some_iff_append_eq.2 rfl
  rw [ofClassWords, hcut]
  simp only [hafter]

/-- A line with the keyword for a base is read by its words. -/
theorem of_line_of_base (h : Text.trim line = "extends".toList ++ rest) :
    ofLine line = ofBaseWords (Text.trim rest) := by
  -- The keyword for a class name is tried first, and differs in its first letter.
  have hclass : "class_name ".toList.isPrefixOf? (Text.trim line) = none := by
    rw [Text.prefix_rest_eq_none_iff, h]
    simp
  rw [ofLine, ofTrimmed, hclass]
  simp only [List.isPrefixOf?_eq_some_iff_append_eq.2 h.symm]

/-- A line that is read is a class name alone, a class name with a base, a base alone, or no
header. -/
theorem of_line_cases (h : ofLine line = .ok here) :
    (∃ name, ClassWords line name ∧ ' ' ∉ name ∧ here = ⟨some (String.ofList name), none⟩) ∨
    (∃ name rest, ClassWords line (name ++ " extends ".toList ++ rest) ∧ ' ' ∉ name ∧
      here = ⟨some (String.ofList name), some (String.ofList (Text.trim rest))⟩) ∨
    (∃ rest, Text.trim line = "extends".toList ++ rest ∧ ' ' ∉ Text.trim rest ∧
      here = ⟨none, some (String.ofList (Text.trim rest))⟩) ∨
    here = empty := by
  unfold ofLine ofTrimmed at h
  split at h
  · next rest hrest =>
      have hline := (List.isPrefixOf?_eq_some_iff_append_eq.1 hrest).symm
      unfold ofClassWords at h
      split at h
      · next hcut =>
          cases h
          exact .inl ⟨_, ⟨rest, hline, rfl⟩, Text.cut?_char_eq_none_iff.1 hcut, rfl⟩
      · next name tail hcut =>
          obtain ⟨heq, hspace⟩ := Text.cut?_char_eq_some_iff.1 hcut
          split at h
          · next base hbase =>
              cases h
              have htail := (List.isPrefixOf?_eq_some_iff_append_eq.1 hbase).symm
              refine .inr (.inl ⟨name, base, ⟨rest, hline, ?_⟩, hspace, rfl⟩)
              rw [heq, htail]
              simp
          · cases h
  · split at h
    · next rest hrest =>
        unfold ofBaseWords at h
        split at h
        · cases h
        · next hspace =>
            cases h
            refine .inr (.inr (.inl
              ⟨rest, (List.isPrefixOf?_eq_some_iff_append_eq.1 hrest).symm, ?_, rfl⟩))
            simpa using hspace
    · cases h
      exact .inr (.inr (.inr rfl))

/-- The class name that is read from a line is the one it declares. -/
theorem declares_class_iff (h : ofLine line = .ok here) :
    DeclaresClass line name ↔ here.className = some (String.ofList name) := by
  constructor
  · intro hdeclares
    cases hdeclares with
    | alone hwords hspace =>
        rw [of_line_of_class_words hwords, of_class_words_alone hspace] at h
        cases h
        rfl
    | extending base hwords hspace =>
        rw [of_line_of_class_words hwords, of_class_words_extending hspace] at h
        cases h
        rfl
  · intro hname
    rcases of_line_cases h with ⟨word, hwords, hspace, rfl⟩ | ⟨word, rest, hwords, hspace, rfl⟩ |
      ⟨rest, _, _, rfl⟩ | rfl
    · obtain rfl := String.ofList_injective (Option.some.inj hname)
      exact .alone _ hwords hspace
    · obtain rfl := String.ofList_injective (Option.some.inj hname)
      exact .extending _ rest hwords hspace
    · cases hname
    · cases hname

/-- The base that is read from a line is the one it declares. -/
theorem declares_base_iff (h : ofLine line = .ok here) :
    DeclaresBase line base ↔ here.base = some (String.ofList base) := by
  constructor
  · intro hdeclares
    cases hdeclares with
    | behindClass name rest hwords hspace =>
        rw [of_line_of_class_words hwords, of_class_words_extending hspace] at h
        cases h
        rfl
    | alone rest hline hspace =>
        rw [of_line_of_base hline, ofBaseWords, if_neg (by simpa using hspace)] at h
        cases h
        rfl
  · intro hbase
    rcases of_line_cases h with ⟨word, _, _, rfl⟩ | ⟨word, rest, hwords, hspace, rfl⟩ |
      ⟨rest, hline, hspace, rfl⟩ | rfl
    · cases hbase
    · obtain rfl := String.ofList_injective (Option.some.inj hbase)
      exact .behindClass word rest hwords hspace
    · obtain rfl := String.ofList_injective (Option.some.inj hbase)
      exact .alone rest hline hspace
    · cases hbase

end Header

namespace Script

open Header

/-- `declaredClass line` is the class name that is read from a line. -/
def declaredClass (line : List Char) : Option String :=
  match ofLine line with
  | .ok here => here.className
  | .error _ => none

/-- `declaredBase line` is the base that is read from a line. -/
def declaredBase (line : List Char) : Option String :=
  match ofLine line with
  | .ok here => here.base
  | .error _ => none

/-- `OnlyDeclares Declares lines word` says that exactly one of the lines declares something, and
that it declares `word`. -/
def OnlyDeclares (Declares : List Char → List Char → Prop) (lines : List (List Char))
    (word : List Char) : Prop :=
  ∃ before line after, lines = before ++ line :: after ∧ Declares line word ∧
    ∀ other ∈ before ++ after, ∀ w, ¬ Declares other w

variable {number : Nat} {seen last : Header} {line : List Char} {lines : List (List Char)}

/-! ## Scanning a file -/

/-- The scan goes on behind a line that is read and repeats no declaration. -/
theorem scan_headers_cons (h : scanHeaders number seen (line :: lines) = .ok last) :
    ∃ here, ofLine line = .ok here ∧ (here.className = none ∨ seen.className = none) ∧
      (here.base = none ∨ seen.base = none) ∧
      scanHeaders (number + 1) (here.orElse seen) lines = .ok last := by
  rw [scanHeaders] at h
  split at h
  · cases h
  · next here hhere =>
      split at h
      · cases h
      · next hclass =>
          split at h
          · cases h
          · next hbase =>
              refine ⟨here, hhere, ?_, ?_, h⟩
              · cases hh : here.className <;> simp_all
              · cases hb : here.base <;> simp_all

/-- Where one of two declarations is missing, the other is what both make together. -/
theorem to_list_or_else {here seen : Option String} (h : here = none ∨ seen = none) :
    (here <|> seen).toList = seen.toList ++ here.toList := by
  rcases h with rfl | rfl
  · simp
  · cases here <;> rfl

/-- A scan that succeeds reads every line and collects their declarations in order. -/
theorem scan_headers_ok (h : scanHeaders number seen lines = .ok last) :
    (∀ line ∈ lines, ∃ here, ofLine line = .ok here) ∧
    last.className.toList = seen.className.toList ++ lines.filterMap declaredClass ∧
    last.base.toList = seen.base.toList ++ lines.filterMap declaredBase := by
  induction lines generalizing number seen with
  | nil =>
      rw [scanHeaders] at h
      cases h
      simp
  | cons line lines ih =>
      obtain ⟨here, hhere, hclass, hbase, hscan⟩ := scan_headers_cons h
      obtain ⟨hread, hclasses, hbases⟩ := ih hscan
      have hdeclared : declaredClass line = here.className := by rw [declaredClass, hhere]
      have hextended : declaredBase line = here.base := by rw [declaredBase, hhere]
      -- At most one of this line and those before it declares a thing, so nothing is overwritten.
      refine ⟨?_, ?_, ?_⟩
      · intro other hother
        rcases List.mem_cons.1 hother with rfl | hmem
        · exact ⟨here, hhere⟩
        · exact hread other hmem
      · rw [hclasses, orElse, to_list_or_else hclass, List.filterMap_cons, hdeclared]
        cases here.className <;> simp
      · rw [hbases, orElse, to_list_or_else hbase, List.filterMap_cons, hextended]
        cases here.base <;> simp

/-- One entry is collected exactly when one line has an entry. -/
theorem filter_map_eq_singleton_iff {f : List Char → Option String} {word : String} :
    lines.filterMap f = [word] ↔ ∃ before line after, lines = before ++ line :: after ∧
      f line = some word ∧ ∀ other ∈ before ++ after, f other = none := by
  rw [List.filterMap_eq_cons_iff]
  constructor
  · intro hsplit
    obtain ⟨before, line, after, heq, hbefore, hline, hafter⟩ := hsplit
    refine ⟨before, line, after, heq, hline, ?_⟩
    intro other hother
    rcases List.mem_append.1 hother with hmem | hmem
    · exact hbefore other hmem
    · exact List.filterMap_eq_nil_iff.1 hafter other hmem
  · intro hsplit
    obtain ⟨before, line, after, heq, hline, hnone⟩ := hsplit
    refine ⟨before, line, after, heq, ?_, hline, List.filterMap_eq_nil_iff.2 ?_⟩
    · exact fun other hmem => hnone other (List.mem_append_left _ hmem)
    · exact fun other hmem => hnone other (List.mem_append_right _ hmem)

/-! ## The header of a file -/

section Reading

variable {Declares : List Char → List Char → Prop} {f : List Char → Option String}
  {found : Option String} (hread : ∀ line ∈ lines, ∀ word,
    Declares line word ↔ f line = some (String.ofList word))

include hread

/-- Nothing is read from a line exactly when it declares nothing. -/
theorem read_eq_none_iff (hline : line ∈ lines) : f line = none ↔ ∀ word, ¬ Declares line word := by
  constructor
  · intro hnone word hdeclares
    rw [hread line hline, hnone] at hdeclares
    cases hdeclares
  · intro hnone
    cases hf : f line with
    | none => rfl
    | some word =>
        refine absurd ((hread line hline word.toList).2 ?_) (hnone word.toList)
        rw [hf, String.ofList_toList]

/-- What is found in lines is a word exactly when it is the only word they declare. -/
theorem found_eq_some_iff (hfound : found.toList = lines.filterMap f) (word : List Char) :
    found = some (String.ofList word) ↔ OnlyDeclares Declares lines word := by
  rw [← Option.toList_eq_singleton_iff, hfound, filter_map_eq_singleton_iff]
  unfold OnlyDeclares
  constructor
  · intro hsplit
    obtain ⟨before, line, after, rfl, hline, hnone⟩ := hsplit
    refine ⟨before, line, after, rfl, (hread line (by simp) word).2 hline, ?_⟩
    intro other hother
    have hmem := (List.sublist_cons_self line after).append_left before |>.subset hother
    exact (read_eq_none_iff hread hmem).1 (hnone other hother)
  · intro honly
    obtain ⟨before, line, after, rfl, hline, hnone⟩ := honly
    refine ⟨before, line, after, rfl, (hread line (by simp) word).1 hline, ?_⟩
    intro other hother
    have hmem := (List.sublist_cons_self line after).append_left before |>.subset hother
    exact (read_eq_none_iff hread hmem).2 (hnone other hother)

/-- Something is found in lines exactly when one of them declares something. -/
theorem found_is_some_iff (hfound : found.toList = lines.filterMap f) :
    found.isSome = true ↔ ∃ line ∈ lines, ∃ word, Declares line word := by
  constructor
  · intro hsome
    obtain ⟨word, rfl⟩ := Option.isSome_iff_exists.1 hsome
    have hmem : word ∈ lines.filterMap f := by
      rw [← hfound]
      simp
    obtain ⟨line, hline, hf⟩ := List.mem_filterMap.1 hmem
    refine ⟨line, hline, word.toList, (hread line hline word.toList).2 ?_⟩
    rw [hf, String.ofList_toList]
  · intro hdeclared
    obtain ⟨line, hline, word, hdeclares⟩ := hdeclared
    have hf := (hread line hline word).1 hdeclares
    have hmem : String.ofList word ∈ found.toList := by
      rw [hfound]
      exact List.mem_filterMap.2 ⟨line, hline, hf⟩
    exact Option.isSome_of_mem (Option.mem_toList.1 hmem)

end Reading

variable {contents : String} {header : Header}

/-- In a file that is read, a line declares the class name that is read from it, and these are
collected into that of the file. -/
theorem class_name_of_headers (h : headers contents = .ok header) :
    (∀ line ∈ Text.lines contents.toList, ∀ name,
      DeclaresClass line name ↔ declaredClass line = some (String.ofList name)) ∧
    header.className.toList = (Text.lines contents.toList).filterMap declaredClass := by
  obtain ⟨hread, hclass, _⟩ := scan_headers_ok h
  refine ⟨?_, hclass⟩
  intro line hline name
  obtain ⟨here, hhere⟩ := hread line hline
  rw [declares_class_iff hhere, declaredClass, hhere]

/-- In a file that is read, a line declares the base that is read from it, and these are collected
into that of the file. -/
theorem base_of_headers (h : headers contents = .ok header) :
    (∀ line ∈ Text.lines contents.toList, ∀ base,
      DeclaresBase line base ↔ declaredBase line = some (String.ofList base)) ∧
    header.base.toList = (Text.lines contents.toList).filterMap declaredBase := by
  obtain ⟨hread, _, hbase⟩ := scan_headers_ok h
  refine ⟨?_, hbase⟩
  intro line hline base
  obtain ⟨here, hhere⟩ := hread line hline
  rw [declares_base_iff hhere, declaredBase, hhere]

/-- The class name of a file is the one that exactly one line declares. -/
theorem class_name_eq_some_iff (h : headers contents = .ok header) (name : List Char) :
    header.className = some (String.ofList name) ↔
      OnlyDeclares DeclaresClass (Text.lines contents.toList) name := by
  obtain ⟨hread, hclass⟩ := class_name_of_headers h
  exact found_eq_some_iff hread hclass name

/-- A file has a class name exactly when some line declares one. -/
theorem class_name_is_some_iff (h : headers contents = .ok header) :
    header.className.isSome = true ↔
      ∃ line ∈ Text.lines contents.toList, ∃ name, DeclaresClass line name := by
  obtain ⟨hread, hclass⟩ := class_name_of_headers h
  exact found_is_some_iff hread hclass

/-- The base of a file is the one that exactly one line declares. -/
theorem base_eq_some_iff (h : headers contents = .ok header) (base : List Char) :
    header.base = some (String.ofList base) ↔
      OnlyDeclares DeclaresBase (Text.lines contents.toList) base := by
  obtain ⟨hread, hbase⟩ := base_of_headers h
  exact found_eq_some_iff hread hbase base

/-- A script that is built has the name of its file and the header of its text. -/
theorem build_eq_ok_iff {path : FilePath} {resource : String} {s : Script} :
    build path contents resource = .ok s ↔
      ∃ name header, nameOf (.ofFileName path.name) path = .ok name ∧
        headers contents = .ok header ∧
        s = ⟨path.name, name, path, resource, contents, .ofFileName path.name, header.className,
          header.base⟩ := by
  constructor
  · intro h
    simp only [build, bind, Except.bind] at h
    split at h
    · cases h
    · next name hname =>
        split at h
        · cases h
        · next header hheader =>
            cases h
            exact ⟨name, header, hname, hheader, rfl⟩
  · intro hparts
    obtain ⟨name, header, hname, hheader, rfl⟩ := hparts
    simp only [build, bind, Except.bind, hname, hheader]
    rfl

end Script

end SceneLint
