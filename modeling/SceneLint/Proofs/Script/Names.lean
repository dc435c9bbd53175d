import Mathlib.Data.List.TakeWhile
import SceneLint.Proofs.Script.HeaderScan

/-!
# The name of a script

The name of a file is the mark of a kind, the name of the script and the suffix, one behind the
other. The kind is read off the whole name and the mark is cut off the stem, so this rests on where
the stem ends: at the last point, which a mark does not hold (`prefix_split_name`). So a file always
names its script (`exists_name`), and nothing of its name is lost (`name_without_loss`).
-/

namespace SceneLint

namespace FilePath

variable {cs front tail mark : List Char}

/-! ## Where the stem ends -/

/-- A text without points has no suffix. -/
theorem split_name_of_not_mem (h : '.' ∉ cs) : splitName cs = (cs, []) := by
  have hbehind : cs.reverse.takeWhile (· != '.') = cs.reverse := by
    rw [List.takeWhile_eq_self_iff]
    intro c hc
    rw [bne_iff_ne]
    rintro rfl
    exact h (List.mem_reverse.1 hc)
  simp [splitName, hbehind]

/-- A text is cut at its last point, unless that begins or ends it. -/
theorem split_name_of_last_point (h : '.' ∉ tail) :
    splitName (front ++ '.' :: tail) =
      if tail = [] ∨ front = [] then (front ++ '.' :: tail, []) else (front, '.' :: tail) := by
  have htail : ∀ c ∈ tail.reverse, (c != '.') = true := by
    intro c hc
    rw [bne_iff_ne]
    rintro rfl
    exact h (List.mem_reverse.1 hc)
  have hbehind : (front ++ '.' :: tail).reverse.takeWhile (· != '.') = tail.reverse := by
    rw [List.reverse_append, List.reverse_cons, List.append_assoc, List.singleton_append,
      List.takeWhile_append_of_pos htail]
    simp
  have hstem : (front ++ '.' :: tail).length - tail.length - 1 = front.length := by
    simp only [List.length_append, List.length_cons]
    omega
  have hshort : tail.length ≠ (front ++ '.' :: tail).length := by
    simp only [List.length_append, List.length_cons]
    omega
  simp only [splitName, hbehind, List.length_reverse, hstem, hshort, List.take_left,
    List.drop_left, List.length_eq_zero_iff, Bool.or_eq_true, decide_eq_true_eq, or_false]

/-- What a text begins with stays in the stem, if it holds no point. -/
theorem prefix_split_name (hmark : '.' ∉ mark) (h : mark <+: cs) : mark <+: (splitName cs).1 := by
  by_cases hpoint : '.' ∈ cs
  · obtain ⟨behind, before, hcs, hbehind⟩ := List.eq_append_cons_of_mem (List.mem_reverse.2 hpoint)
    have heq : cs = before.reverse ++ '.' :: behind.reverse := by
      rw [← List.reverse_reverse cs, hcs]
      simp
    have htail : '.' ∉ behind.reverse := by simpa using hbehind
    rw [heq] at h ⊢
    rw [split_name_of_last_point htail]
    split
    · exact h
    · obtain ⟨rest, hrest⟩ := h
      rcases List.append_eq_append_iff.1 hrest with ⟨more, hstem, -⟩ | ⟨more, hlonger, hmore⟩
      · exact ⟨more, hstem.symm⟩
      · -- The mark would reach behind the point, so it ends before it.
        cases more with
        | nil => exact ⟨[], by simpa using hlonger⟩
        | cons c more =>
            obtain ⟨rfl, -⟩ := List.cons.inj hmore
            exact absurd (by simp [hlonger]) hmark
  · rwa [split_name_of_not_mem hpoint]

/-- Stem and suffix make up the last name of a path. -/
theorem stem_append_suffix (p : FilePath) : p.stem ++ p.suffix = p.name := by
  rw [← String.toList_inj, String.toList_append, stem, suffix, String.toList_ofList,
    String.toList_ofList, split_name_append]

end FilePath

namespace ScriptKind

/-- `mark kind` is what the names of the files of a kind begin with. -/
def mark : ScriptKind → String
  | .behaviour => ""
  | .value => "v_"
  | .reference => "r_"

/-- A name begins with the mark of the kind it stands for. -/
theorem mark_prefix (name : String) : (ofFileName name).mark.toList <+: name.toList := by
  unfold ofFileName
  split
  · next rest heq => exact ⟨rest, heq.symm⟩
  · next rest heq => exact ⟨rest, heq.symm⟩
  · exact List.nil_prefix

/-- A stem behind a mark is the name of a script. -/
theorem script_name_of_stem {kind : ScriptKind} {path : FilePath} {rest : List Char}
    (h : kind.mark.toList ++ rest = path.stem.toList) :
    kind.scriptName? path = some (String.ofList rest) := by
  cases kind with
  | behaviour =>
      rw [scriptName?, if_pos rfl, ← String.ofList_toList (s := path.stem), ← h]
      rfl
  | value =>
      rw [scriptName?, if_neg (by decide), ← h]
      rfl
  | reference =>
      rw [scriptName?, if_neg (by decide), ← h]
      rfl

end ScriptKind

namespace Script

/-! ## The name -/

/-- A file always names its script, by what is left of its name without mark and suffix. -/
theorem exists_name (path : FilePath) :
    ∃ name, nameOf (.ofFileName path.name) path = .ok name ∧
      path.name = (ScriptKind.ofFileName path.name).mark ++ name ++ path.suffix := by
  have hpoint : '.' ∉ (ScriptKind.ofFileName path.name).mark.toList := by
    cases ScriptKind.ofFileName path.name <;> decide
  obtain ⟨rest, hrest⟩ := FilePath.prefix_split_name hpoint (ScriptKind.mark_prefix path.name)
  have hstem : (ScriptKind.ofFileName path.name).mark.toList ++ rest = path.stem.toList := by
    rw [hrest, FilePath.stem, String.toList_ofList]
  refine ⟨String.ofList rest, ?_, ?_⟩
  · rw [nameOf, ScriptKind.script_name_of_stem hstem]
  · rw [← String.toList_inj, String.toList_append, String.toList_append, String.toList_ofList,
      hstem, ← String.toList_append, path.stem_append_suffix]

/-- A script fails to be built only for the header lines of its text. -/
theorem build_error_iff {path : FilePath} {contents resource : String} {fault : ScriptFault} :
    build path contents resource = .error fault ↔ headers contents = .error fault := by
  obtain ⟨name, hname, -⟩ := exists_name path
  simp only [build, bind, Except.bind, hname]
  cases headers contents <;> simp [pure, Except.pure]

/-- The file of a script that is built is called by the mark of the kind, the name and the
suffix. -/
theorem full_name_of_build {path : FilePath} {contents resource : String} {s : Script}
    (h : build path contents resource = .ok s) :
    s.fullName = path.name ∧ s.fullName = s.kind.mark ++ s.name ++ path.suffix := by
  obtain ⟨name, header, hname, -, rfl⟩ := build_eq_ok_iff.1 h
  obtain ⟨name', hname', heq⟩ := exists_name path
  rw [hname'] at hname
  cases hname
  exact ⟨rfl, heq⟩

/-- Names without loss. A script fails to be built only where a header line of its text is at fault,
never for its name. The name of its file is the mark of its kind, its own name and the suffix; so of
two scripts of one kind whose files have one suffix, the names are the same exactly when the names
of the files are. -/
theorem name_without_loss :
    (∀ (path : FilePath) (contents resource : String) (fault : ScriptFault),
      build path contents resource = .error fault →
        headers contents = .error fault ∧ (BuildFault.script fault).code ≠ "name") ∧
    (∀ (path : FilePath) (contents resource : String) (s : Script),
      build path contents resource = .ok s →
        s.fullName = path.name ∧ s.fullName = s.kind.mark ++ s.name ++ path.suffix) ∧
    (∀ (path path' : FilePath) (contents contents' resource resource' : String) (s s' : Script),
      build path contents resource = .ok s → build path' contents' resource' = .ok s' →
      s.kind = s'.kind → path.suffix = path'.suffix →
        (s.name = s'.name ↔ path.name = path'.name)) := by
  refine ⟨?_, ?_, ?_⟩
  · intro path contents resource fault h
    have hheaders := build_error_iff.1 h
    refine ⟨hheaders, ?_⟩
    have hscan := headers_result contents
    rw [hheaders] at hscan
    cases hscan with
    | failed i _ hfault _ => cases hfault <;> simp [BuildFault.code]
  · intro path contents resource s h
    exact full_name_of_build h
  · intro path path' contents contents' resource resource' s s' h h' hkind hsuffix
    obtain ⟨hfile, hname⟩ := full_name_of_build h
    obtain ⟨hfile', hname'⟩ := full_name_of_build h'
    rw [← hfile, ← hfile', hname, hname', hkind, hsuffix, String.append_left_inj,
      String.append_right_inj]

/-- `dottedScript directory fullName name` is a value without header lines. -/
def dottedScript (directory fullName name : String) : Script where
  fullName := fullName
  name := name
  path := ⟨.relative, [directory, fullName]⟩
  resource := ""
  contents := ""
  kind := .value
  className := none
  base := none

/-- Points around a name belong to it, also where nothing else does, and a value without any name
is built; a fault lies in the text. -/
theorem name_without_loss_dotted :
    (build (.ofString "p/v_") "extends A B" "" = .error (.header 1 .wordAfterBase "extends A B") ∧
      (BuildFault.script (.header 1 .wordAfterBase "extends A B")).code ≠ "name") ∧
    (build (.ofString "p/v_..gd") "" "" = .ok (dottedScript "p" "v_..gd" ".") ∧
      "v_..gd" = ScriptKind.value.mark ++ "." ++ (FilePath.ofString "p/v_..gd").suffix) ∧
    build (.ofString "q/v_.gd") "" "" = .ok (dottedScript "q" "v_.gd" "") ∧
      ("." = "" ↔ "v_..gd" = "v_.gd") := by
  obtain ⟨hfault, hname, hsame⟩ := name_without_loss
  have hheader : build (.ofString "p/v_") "extends A B" "" =
      .error (.header 1 .wordAfterBase "extends A B") := by decide
  have hdots : build (.ofString "p/v_..gd") "" "" = .ok (dottedScript "p" "v_..gd" ".") := by decide
  have hempty : build (.ofString "q/v_.gd") "" "" = .ok (dottedScript "q" "v_.gd" "") := by decide
  exact ⟨⟨hheader, (hfault _ _ _ _ hheader).2⟩, ⟨hdots, (hname _ _ _ _ hdots).2⟩, hempty,
    hsame _ _ _ _ _ _ _ _ hdots hempty rfl (by decide)⟩

end Script

end SceneLint
