import SceneLint.Proofs.Path.Below

/-!
# Resource paths and separators

A resource path is divided by slashes whether the file's path is divided by slashes or, behind a
drive, by backslashes. Reading a path that is written from names gives these names back
(`of_string_slash_path`, `of_string_drive_path`), and what is left of them below the root is written
with slashes. `resource_of_names` says so of both kinds of paths, tells the names from the resource
path, and says which files have none.
-/

namespace SceneLint

namespace Resource

/-- Slashes are unified in each part of a text. -/
theorem slashed_append (a b : String) : slashed (a ++ b) = slashed a ++ slashed b := by
  simp [slashed]

/-- A text without backslashes stays as it is. -/
theorem slashed_of_not_mem {s : String} (h : '\\' ∉ s.toList) : slashed s = s := by
  unfold slashed
  rw [List.map_congr_left (g := id), List.map_id, String.ofList_toList]
  intro c hc
  have hne : c ≠ '\\' := by
    rintro rfl
    exact h hc
  simp [hne]

/-- The resource path of a file some names down is the start and these names, divided by slashes. -/
theorem of_file_descend (start : String) (root : FilePath) {names : List String}
    (hne : names ≠ []) :
    ofFile start (root.descend names) root =
      .ok (start ++ slashed ("/".intercalate names)) := by
  simp [ofFile, FilePath.relativeTo, FilePath.descend, FilePath.text, FilePath.bareText,
    Anchor.text, Except.map, hne]

/-- Names without backslashes that are divided by them are divided by slashes instead. -/
theorem slashed_intercalate {names : List String} (h : ∀ name ∈ names, '\\' ∉ name.toList) :
    slashed ("\\".intercalate names) = "/".intercalate names := by
  induction names with
  | nil => rfl
  | cons name names ih =>
      rw [List.forall_mem_cons] at h
      cases names with
      | nil =>
          rw [String.intercalate_singleton, String.intercalate_singleton]
          exact slashed_of_not_mem h.1
      | cons next others =>
          have hsep : slashed "\\" = "/" := by decide
          rw [String.intercalate_cons_cons, String.intercalate_cons_cons, slashed_append,
            slashed_append, ih h.2, slashed_of_not_mem h.1, hsep]

end Resource

/-- `IsComponent name` says that a name means the same on every system: it is neither empty nor a
point, and holds neither a separator nor the sign of a drive. -/
structure IsComponent (name : String) : Prop where
  ne_empty : name ≠ ""
  ne_point : name ≠ "."
  no_slash : '/' ∉ name.toList
  no_backslash : '\\' ∉ name.toList
  no_colon : ':' ∉ name.toList

/-- `IsComponent` is decided by its five conditions. -/
instance (name : String) : Decidable (IsComponent name) :=
  decidable_of_iff (name ≠ "" ∧ name ≠ "." ∧ '/' ∉ name.toList ∧ '\\' ∉ name.toList ∧
      ':' ∉ name.toList)
    ⟨fun ⟨h₁, h₂, h₃, h₄, h₅⟩ => ⟨h₁, h₂, h₃, h₄, h₅⟩,
      fun h => ⟨h.ne_empty, h.ne_point, h.no_slash, h.no_backslash, h.no_colon⟩⟩

/-- `slashPath names` is the path through some names, divided by slashes. -/
def slashPath (names : List String) : FilePath :=
  .ofString ("/" ++ "/".intercalate names)

/-- `drivePath names` is the path through some names on a drive, divided by backslashes. -/
def drivePath (names : List String) : DrivePath :=
  .ofString ("C:\\" ++ "\\".intercalate names)

/-- `FilePath.partsWithStart p` is the names of a path behind its start, if that is written. -/
def FilePath.partsWithStart (p : FilePath) : List String :=
  match p.anchor with
  | .relative => p.parts
  | .root => "/" :: p.parts
  | .doubleRoot => "//" :: p.parts

variable {names dirs : List String} {start name : String} {sep : Char}

/-! ## Reading written paths -/

/-- A component counts when a path is read. -/
theorem IsComponent.is_step (h : IsComponent name) : FilePath.isStep name = true := by
  simp [FilePath.isStep, h.ne_empty, h.ne_point]

/-- A component holds a character. -/
theorem IsComponent.ne_nil (h : IsComponent name) : name.toList ≠ [] := by
  simpa using h.ne_empty

/-- Names that are joined do not start with the separator. -/
theorem head?_join (h : ∀ name ∈ names, IsComponent name)
    (hsep : ∀ name ∈ names, sep ∉ name.toList) :
    ∀ c ∈ ([sep].intercalate (names.map String.toList)).head?, c ≠ sep := by
  intro c hc
  cases names with
  | nil => cases hc
  | cons name names =>
      obtain ⟨d, cs, hname⟩ := List.exists_cons_of_ne_nil (h name List.mem_cons_self).ne_nil
      have hd : d ∈ name.toList := by
        rw [hname]
        exact List.mem_cons_self
      have hhead : ([sep].intercalate (name.toList :: names.map String.toList)).head? = some d := by
        rw [hname]
        cases names <;> rfl
      rw [List.map_cons, hhead] at hc
      cases hc
      rintro rfl
      exact hsep name List.mem_cons_self hd

/-- The steps of joined names are these names. -/
theorem steps_of_join (h : ∀ name ∈ names, IsComponent name)
    (hsep : ∀ name ∈ names, sep ∉ name.toList) :
    ((([sep].intercalate (names.map String.toList)).splitOn sep).map String.ofList).filter
      FilePath.isStep = names := by
  by_cases hne : names = []
  · subst hne
    rfl
  · have hfree : ∀ piece ∈ names.map String.toList, sep ∉ piece := by simpa using hsep
    have hpieces := List.splitOn_intercalate sep hfree (by simpa using hne)
    have hback : (names.map String.toList).map String.ofList = names := by simp
    rw [hpieces, hback, List.filter_eq_self]
    exact fun name hname => (h name hname).is_step

/-- A path that is written with slashes leads through the written names. -/
theorem of_string_slash_path (h : ∀ name ∈ names, IsComponent name) :
    slashPath names = ⟨.root, names⟩ := by
  have hslash : ∀ name ∈ names, '/' ∉ name.toList := fun name hname => (h name hname).no_slash
  have hchars : ("/" ++ "/".intercalate names).toList =
      '/' :: ['/'].intercalate (names.map String.toList) := by
    rw [String.toList_append, String.toList_intercalate]
    rfl
  have hanchor :
      FilePath.anchorOf ('/' :: ['/'].intercalate (names.map String.toList)) = .root := by
    have hhead := head?_join h hslash
    unfold FilePath.anchorOf
    cases hjoin : ['/'].intercalate (names.map String.toList) with
    | nil => rfl
    | cons c cs =>
        have hc : c ≠ '/' := hhead c (by rw [hjoin]; rfl)
        simp [hc]
  have hparts : (Text.splitText '/' ("/" ++ "/".intercalate names)).filter FilePath.isStep =
      names := by
    rw [Text.splitText, hchars, List.splitOn_cons_eq_if_modifyHead, if_pos (beq_self_eq_true '/')]
    exact steps_of_join h hslash
  rw [slashPath, FilePath.ofString, hparts, hchars, hanchor]

/-- The sign for unparsed paths starts with a backslash. -/
theorem extended_of_ne {c : Char} (h : c ≠ '\\') (cs : List Char) :
    DrivePath.extended (c :: cs) = ([], c :: cs) := by
  unfold DrivePath.extended
  split
  · next heq => exact absurd (List.cons.inj heq).1 h
  · next heq => exact absurd (List.cons.inj heq).1 h
  · rfl

/-- The name of a network share starts with a backslash. -/
theorem share?_of_ne {c : Char} (h : c ≠ '\\') (lead cs : List Char) :
    DrivePath.share? lead (c :: cs) = none := by
  unfold DrivePath.share?
  split
  · next heq => exact absurd (List.cons.inj heq).1 h
  · rfl

/-- A path that starts with a drive and a backslash is cut behind these. -/
theorem split_root_drive {cs : List Char} (h : ∀ c ∈ cs.head?, c ≠ '\\') :
    DrivePath.splitRoot ('C' :: ':' :: '\\' :: cs) = (['C', ':'], ['\\'], cs) := by
  have hrest : ('\\' :: cs).dropWhile (· == '\\') = cs := by
    cases cs with
    | nil => rfl
    | cons c cs => simp [h c rfl]
  have hletter : 'C' ≠ '\\' := by decide
  unfold DrivePath.splitRoot
  rw [extended_of_ne hletter]
  simp [share?_of_ne hletter, hrest]

/-- A path that is written with a drive and backslashes leads through the written names. -/
theorem of_string_drive_path (h : ∀ name ∈ names, IsComponent name) :
    drivePath names = ⟨"C:", "\\", names⟩ := by
  have hback : ∀ name ∈ names, '\\' ∉ name.toList :=
    fun name hname => (h name hname).no_backslash
  have hchars : ("C:\\" ++ "\\".intercalate names).toList.map
      (fun c => if c = '/' then '\\' else c) =
        'C' :: ':' :: '\\' :: ['\\'].intercalate (names.map String.toList) := by
    have hslash : '/' ∉ ("C:\\" ++ "\\".intercalate names).toList := by
      rw [String.toList_append, List.mem_append, not_or]
      exact ⟨by decide,
        Text.not_mem_intercalate (by decide) fun name hname => (h name hname).no_slash⟩
    rw [List.map_congr_left (g := id), List.map_id, String.toList_append, String.toList_intercalate]
    · rfl
    · intro c hc
      have hne : c ≠ '/' := fun heq => hslash (heq ▸ hc)
      simp [hne]
  simp only [drivePath, DrivePath.ofString, hchars, split_root_drive (head?_join h hback),
    steps_of_join h hback]

/-- A component does not start with a drive. -/
theorem split_root_component (h : IsComponent name) :
    DrivePath.splitRoot name.toList = ([], [], name.toList) := by
  obtain ⟨c, cs, hname⟩ := List.exists_cons_of_ne_nil h.ne_nil
  have hback : c ≠ '\\' := by
    rintro rfl
    exact h.no_backslash (by simp [hname])
  have hcolon : ∀ rest, cs ≠ ':' :: rest := by
    rintro rest rfl
    exact h.no_colon (by simp [hname])
  rw [hname]
  unfold DrivePath.splitRoot
  rw [extended_of_ne hback]
  simp only [share?_of_ne hback]
  split
  · next heq => exact absurd (List.cons.inj heq).2 (hcolon _)
  · simp [hback]

/-- Following a component leads one name further. -/
theorem step_component (p : DrivePath) (h : IsComponent name) :
    p.step name = { p with parts := p.parts ++ [name] } := by
  rw [DrivePath.step, split_root_component h]

/-- Following components one by one leads through all of them. -/
theorem foldl_step_components (p : DrivePath) (h : ∀ name ∈ names, IsComponent name) :
    names.foldl DrivePath.step p = { p with parts := p.parts ++ names } := by
  induction names generalizing p with
  | nil => simp
  | cons name names ih =>
      rw [List.forall_mem_cons] at h
      rw [List.foldl_cons, step_component p h.1, ih _ h.2, List.append_assoc]
      rfl

/-! ## Resource paths of written paths -/

/-- A file below a root that is written with slashes has its names for a resource path. -/
theorem of_file_slash_path (start : String) (hdirs : ∀ name ∈ dirs, IsComponent name)
    (hnames : ∀ name ∈ names, IsComponent name) (hne : names ≠ []) :
    Resource.ofFile start (slashPath (dirs ++ names)) (slashPath dirs) =
      .ok (start ++ "/".intercalate names) := by
  have hall : ∀ name ∈ dirs ++ names, IsComponent name := List.forall_mem_append.2 ⟨hdirs, hnames⟩
  have hplain : '\\' ∉ ("/".intercalate names).toList :=
    Text.not_mem_intercalate (by decide) fun name hname => (hnames name hname).no_backslash
  have hpath := Resource.of_file_descend start (slashPath dirs) hne
  rw [Resource.slashed_of_not_mem hplain, of_string_slash_path hdirs] at hpath
  rw [of_string_slash_path hall, of_string_slash_path hdirs]
  exact hpath

/-- Joined components are not empty. -/
theorem intercalate_ne_empty (sep : String) (h : ∀ name ∈ names, IsComponent name)
    (hne : names ≠ []) : String.intercalate sep names ≠ "" := by
  obtain ⟨name, names, rfl⟩ := List.exists_cons_of_ne_nil hne
  have hname := (h name List.mem_cons_self).ne_nil
  intro hempty
  have hchars := congrArg String.toList hempty
  cases names with
  | nil =>
      rw [String.intercalate_singleton] at hchars
      exact hname hchars
  | cons next others =>
      rw [String.intercalate_cons_cons, String.toList_append, String.toList_append] at hchars
      exact hname (List.append_eq_nil_iff.1 (List.append_eq_nil_iff.1 hchars).1).1

/-- A file below a root that is written with a drive has its names, divided by slashes, for a
resource path. -/
theorem of_file_drive_path (start : String) (hdirs : ∀ name ∈ dirs, IsComponent name)
    (hnames : ∀ name ∈ names, IsComponent name) (hne : names ≠ []) :
    Resource.ofDriveFile start (drivePath (dirs ++ names)) (drivePath dirs) =
      .ok (start ++ "/".intercalate names) := by
  have hall : ∀ name ∈ dirs ++ names, IsComponent name := List.forall_mem_append.2 ⟨hdirs, hnames⟩
  have hrestarted : DrivePath.restarted ⟨"C:", "\\", dirs⟩ = ⟨"C:", "\\", dirs⟩ :=
    foldl_step_components ⟨"C:", "\\", []⟩ hdirs
  have hway : DrivePath.relativeTo ⟨"C:", "\\", dirs ++ names⟩ ⟨"C:", "\\", dirs⟩ =
      .ok ⟨"", "", names⟩ := by
    simp [DrivePath.relativeTo, hrestarted, DrivePath.steps]
  have htext : DrivePath.text ⟨"", "", names⟩ = "\\".intercalate names := by
    have hbare : DrivePath.bareText ⟨"", "", names⟩ = "\\".intercalate names := by
      simp [DrivePath.bareText]
    rw [DrivePath.text, hbare, if_neg (intercalate_ne_empty "\\" hnames hne)]
  rw [of_string_drive_path hall, of_string_drive_path hdirs, Resource.ofDriveFile, hway]
  simp only [Except.map, htext]
  rw [Resource.slashed_intercalate fun name hname => (hnames name hname).no_backslash]

/-- There is no way from a root to a path that starts elsewhere or does not lead through it. -/
theorem relative_to_error_iff (path root : FilePath) :
    (∃ e, path.relativeTo root = .error e) ↔
      ¬ (path.anchor = root.anchor ∧ root.parts <+: path.parts) := by
  simp only [FilePath.relativeTo, Bool.and_eq_true, decide_eq_true_eq, List.isPrefixOf_iff_prefix]
  split
  · next hbelow => simp [hbelow]
  · next hbelow => simp only [Except.error.injEq, exists_eq', hbelow, not_false_eq_true]

/-- A start that is written is a name in front of the others. -/
theorem parts_with_start_prefix_iff (path root : FilePath) :
    (path.isAbsolute = root.isAbsolute ∧ root.partsWithStart <+: path.partsWithStart) ↔
      path.anchor = root.anchor ∧ root.parts <+: path.parts := by
  obtain ⟨anchor, parts⟩ := path
  obtain ⟨anchor', parts'⟩ := root
  cases anchor <;> cases anchor' <;> simp [FilePath.isAbsolute, FilePath.partsWithStart]

/-- No resource path is given exactly when there is no way from the root. -/
theorem of_file_error_iff (start : String) (path root : FilePath) :
    (∃ e, Resource.ofFile start path root = .error e) ↔
      path.isAbsolute ≠ root.isAbsolute ∨ ¬ root.partsWithStart <+: path.partsWithStart := by
  have hway := relative_to_error_iff path root
  rw [← parts_with_start_prefix_iff, Classical.not_and_iff_not_or_not] at hway
  rw [← Ne] at hway
  rw [← hway, Resource.ofFile]
  cases path.relativeTo root <;> simp [Except.map]

/-- A file below a root has the same resource path on every system: its names below the root,
divided by slashes, which no other names give. A file has none exactly when one of its path and the
root is absolute and the other is not, or the parts of the root, its start included, do not lead the
parts of the path. -/
theorem resource_of_names (start : String) :
    (∀ dirs names, (∀ name ∈ dirs, IsComponent name) → (∀ name ∈ names, IsComponent name) →
      names ≠ [] →
      Resource.ofFile start (slashPath (dirs ++ names)) (slashPath dirs) =
        .ok (start ++ "/".intercalate names) ∧
      Resource.ofDriveFile start (drivePath (dirs ++ names)) (drivePath dirs) =
        .ok (start ++ "/".intercalate names)) ∧
    (∀ dirs names names', (∀ name ∈ dirs, IsComponent name) →
      (∀ name ∈ names, IsComponent name) → names ≠ [] →
      (∀ name ∈ names', IsComponent name) → names' ≠ [] →
      (Resource.ofFile start (slashPath (dirs ++ names)) (slashPath dirs) =
          Resource.ofFile start (slashPath (dirs ++ names')) (slashPath dirs) → names = names') ∧
      (Resource.ofDriveFile start (drivePath (dirs ++ names)) (drivePath dirs) =
          Resource.ofDriveFile start (drivePath (dirs ++ names')) (drivePath dirs) →
        names = names')) ∧
    ∀ path root, (∃ e, Resource.ofFile start path root = .error e) ↔
      path.isAbsolute ≠ root.isAbsolute ∨ ¬ root.partsWithStart <+: path.partsWithStart := by
  refine ⟨?_, ?_, of_file_error_iff start⟩
  · intro dirs names hdirs hnames hne
    exact ⟨of_file_slash_path start hdirs hnames hne, of_file_drive_path start hdirs hnames hne⟩
  · intro dirs names names' hdirs hnames hne hnames' hne'
    have hinjective (h : start ++ "/".intercalate names = start ++ "/".intercalate names') :
        names = names' :=
      Text.intercalate_injective hne hne' (fun name hname => (hnames name hname).no_slash)
        (fun name hname => (hnames' name hname).no_slash) ((String.append_right_inj _).1 h)
    rw [of_file_slash_path start hdirs hnames hne, of_file_slash_path start hdirs hnames' hne',
      of_file_drive_path start hdirs hnames hne, of_file_drive_path start hdirs hnames' hne',
      Except.ok.injEq]
    exact ⟨hinjective, hinjective⟩

/-- Names that lead up count as names, and a root with two slashes is another one. -/
theorem resource_of_names_upward :
    (∀ name ∈ ["game", ".."], IsComponent name) ∧
    Resource.ofFile "res://" (.ofString "/game/../a b/B.gd") (.ofString "/game/..") =
      .ok "res://a b/B.gd" ∧
    Resource.ofDriveFile "res://" (.ofString "C:\\game\\..\\a b\\B.gd")
      (.ofString "C:\\game\\..") = .ok "res://a b/B.gd" ∧
    ∃ e, Resource.ofFile "res://" (.ofString "//game/B.gd") (.ofString "/game") = .error e := by
  have hdirs : ∀ name ∈ ["game", ".."], IsComponent name := by decide
  obtain ⟨hresource, _, herror⟩ := resource_of_names "res://"
  obtain ⟨hslash, hdrive⟩ := hresource ["game", ".."] ["a b", "B.gd"] hdirs (by decide) (by decide)
  exact ⟨hdirs, hslash, hdrive, (herror _ _).2 (.inr (by decide))⟩

end SceneLint
