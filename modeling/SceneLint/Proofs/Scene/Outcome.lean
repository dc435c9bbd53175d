import Mathlib.Logic.Relation
import SceneLint.Project.Build
import SceneLint.Proofs.Scene.Scan

/-!
# What a scene is built from

Two kinds of lines decide what becomes of a scene file: those that name a script resource, and those
that open a node. `UnclosedResource` and `NoMaster` say when the file is refused, and under which
code; the first of them wins, wherever its line stands. Of the lines only `marks` counts, the
resource lines, the first node and the number of nodes. An `Edit` of the other lines, of the order
of resources and nodes, or of later nodes keeps it (`marks_of_edit`), and so does a whole run of
edits. `build_of_marked_lines` puts both together.
-/

namespace SceneLint.Scene

/-- `buildIn index path contents` is the scene in the file at `path`, linked to the script that an
index has under its resource path. -/
def buildIn (index : ScriptIndex) (path : FilePath) (contents : String) :
    Except SceneFault Scene := do
  let resource ← scriptResource (Text.lines contents.toList)
  let (type, hasChildren) ← master (Text.lines contents.toList)
  return ⟨path.name, path.stem, path, contents, type, hasChildren,
    resource.bind fun path => index.lookup path⟩

/-- `UnclosedResource lines` says that the first line that names a script resource holds no quote
behind its mark. -/
def UnclosedResource (lines : List (List Char)) : Prop :=
  ∃ rest, FirstLine "[ext_resource type=\"Script\" path=\"".toList lines
    ("[ext_resource type=\"Script\" path=\"".toList ++ rest) ∧ '"' ∉ rest

/-- `HasType line` says that a line holds a type mark and a quote somewhere behind it. -/
def HasType (line : List Char) : Prop :=
  ∃ front type rest, line = front ++ "type=\"".toList ++ (type ++ '"' :: rest)

/-- `NoMaster lines` says that no line opens a node, or that the first one that does has no type. -/
def NoMaster (lines : List (List Char)) : Prop :=
  (∀ line ∈ lines, ¬ "[node ".toList <+: line) ∨
    ∃ line, FirstLine "[node ".toList lines line ∧ ¬ HasType line

/-- `Outcome index path contents result` says what becomes of a scene file: it is refused for its
resource, or for its nodes, or it is built. -/
inductive Outcome (index : ScriptIndex) (path : FilePath) (contents : String) :
    Except SceneFault Scene → Prop where
  | unclosed (fault) :
      UnclosedResource (Text.lines contents.toList) →
      (BuildFault.scene fault).code = "script-resource" → Outcome index path contents (.error fault)
  | noMaster (fault) :
      ¬ UnclosedResource (Text.lines contents.toList) → NoMaster (Text.lines contents.toList) →
      (BuildFault.scene fault).code = "master-node" → Outcome index path contents (.error fault)
  | built (type resource) :
      MasterType (Text.lines contents.toList) type →
      ResourceOf (Text.lines contents.toList) resource →
      Outcome index path contents (.ok ⟨path.name, path.stem, path, contents, type,
        decide (2 ≤ nodeCount (Text.lines contents.toList)),
        resource.bind fun path => index.lookup path⟩)

/-- An `Edit` puts in a line that is neither a resource nor a node, moves a node in front of a
resource, or changes what a node says behind another one. -/
inductive Edit : List (List Char) → List (List Char) → Prop where
  | insert (before after line) :
      ¬ "[ext_resource type=\"Script\" path=\"".toList <+: line → ¬ "[node ".toList <+: line →
      Edit (before ++ after) (before ++ line :: after)
  | swap (before after resource node) :
      "[ext_resource type=\"Script\" path=\"".toList <+: resource → "[node ".toList <+: node →
      Edit (before ++ resource :: node :: after) (before ++ node :: resource :: after)
  | alter (before after node rest rest') :
      node ∈ before → "[node ".toList <+: node →
      Edit (before ++ ("[node ".toList ++ rest) :: after)
        (before ++ ("[node ".toList ++ rest') :: after)

/-- `resourceLines lines` is the lines that name a script resource. -/
def resourceLines (lines : List (List Char)) : List (List Char) :=
  lines.filter (List.isPrefixOf resourceMark)

/-- `marks lines` is what counts of the lines of a scene: the resources, the first node and the
number of nodes. -/
def marks (lines : List (List Char)) : List (List Char) × Option (List Char) × Nat :=
  (resourceLines lines, (nodeLines lines).head?, (nodeLines lines).length)

variable {lines lines' : List (List Char)} {line : List Char} {fault : SceneFault}
  {index : ScriptIndex} {path : FilePath} {contents contents' : String}
  {result : Except SceneFault Scene}

/-! ## Refused files -/

/-- A line is the first with a start when it is found first, and there is none when nothing is. -/
theorem first_line_or (lead : List Char) (lines : List (List Char)) :
    (∀ line ∈ lines, ¬ lead <+: line) ∨ ∃ line, FirstLine lead lines line := by
  cases hfind : lines.find? (List.isPrefixOf lead) with
  | none =>
      refine .inl fun line hline hlead => ?_
      exact List.find?_eq_none.1 hfind line hline (List.isPrefixOf_iff_prefix.2 hlead)
  | some line => exact .inr ⟨line, first_line_iff.2 hfind⟩

/-- There is one first line with a start. -/
theorem FirstLine.unique {lead line' : List Char} (h : FirstLine lead lines line)
    (h' : FirstLine lead lines line') : line = line' := by
  rw [first_line_iff] at h h'
  exact Option.some.inj (h.symm.trans h')

/-- A text holds a quoted text at its front when it holds a quote. -/
theorem exists_quoted_iff {cs : List Char} : (∃ value, Quoted cs value) ↔ '"' ∈ cs := by
  constructor
  · rintro ⟨value, rest, rfl, _⟩
    simp
  · intro hmem
    obtain ⟨value, rest, rfl, hfree⟩ := List.eq_append_cons_of_mem hmem
    exact ⟨String.ofList value, rest, by simp, by simpa using hfree⟩

/-- The lines of a scene name a resource, or none, unless the first resource is unclosed. -/
theorem exists_resource_iff :
    (∃ resource, ResourceOf lines resource) ↔ ¬ UnclosedResource lines := by
  constructor
  · rintro ⟨resource, hresource⟩ ⟨rest, hfirst, hfree⟩
    cases hresource with
    | none hnone =>
        obtain ⟨hlead, before, after, hlines, _⟩ := hfirst
        exact hnone _ (by simp [hlines]) hlead
    | some path rest' hfirst' hquoted =>
        obtain rfl := List.append_cancel_left (hfirst.unique hfirst')
        exact hfree (exists_quoted_iff.1 ⟨path, hquoted⟩)
  · intro hclosed
    rcases first_line_or resourceMark lines with hnone | ⟨line, hfirst⟩
    · exact ⟨none, .none hnone⟩
    · obtain ⟨rest, rfl⟩ := hfirst.1
      have hquote : '"' ∈ rest := Classical.not_not.1 fun hfree => hclosed ⟨rest, hfirst, hfree⟩
      obtain ⟨value, hquoted⟩ := exists_quoted_iff.2 hquote
      exact ⟨some value, .some value rest hfirst hquoted⟩

/-- A line has the type behind its first mark when it has a type at all. -/
theorem exists_type_value_iff : (∃ type, TypeValue line type) ↔ HasType line := by
  constructor
  · rintro ⟨type, front, _, rfl, _, rest, rfl, _⟩
    exact ⟨front, type.toList, rest, rfl⟩
  · rintro ⟨front, type, rest, hline⟩
    cases hcut : Text.cut? "type=\"".toList line with
    | none => exact absurd hline (Text.cut?_eq_none_iff.1 hcut front _)
    | some pieces =>
        obtain ⟨first, behind⟩ := pieces
        obtain ⟨hsplit, hfirst⟩ := Text.cut?_eq_some_iff.1 hcut
        -- The quote stands behind any mark, so behind the first one too.
        have hle := hfirst front _ hline
        have hrest : ('"' :: rest) <:+ line :=
          ⟨front ++ "type=\"".toList ++ type, by rw [hline, List.append_assoc _ type]⟩
        have hbehind : behind <:+ line := ⟨first ++ "type=\"".toList, hsplit.symm⟩
        have hlength : ('"' :: rest).length ≤ behind.length := by
          have htotal := congrArg List.length (hline.symm.trans hsplit)
          simp only [List.length_append] at htotal
          omega
        have hsuffix := List.suffix_of_suffix_length_le hrest hbehind hlength
        have hquote : '"' ∈ behind := hsuffix.subset (by simp)
        obtain ⟨value, hquoted⟩ := exists_quoted_iff.2 hquote
        exact ⟨value, first, behind, hsplit, hfirst, hquoted⟩

/-- There is a master node with a type unless there is no master. -/
theorem exists_master_type_iff : (∃ type, MasterType lines type) ↔ ¬ NoMaster lines := by
  constructor
  · rintro ⟨type, line, hfirst, htype⟩ (hnone | ⟨line', hfirst', huntyped⟩)
    · obtain ⟨hlead, before, after, hlines, _⟩ := hfirst
      exact hnone line (by simp [hlines]) hlead
    · obtain rfl := hfirst.unique hfirst'
      exact huntyped (exists_type_value_iff.1 ⟨type, htype⟩)
  · intro hmaster
    rcases first_line_or "[node ".toList lines with hnone | ⟨line, hfirst⟩
    · exact absurd (.inl hnone) hmaster
    · have htyped : HasType line :=
        Classical.not_not.1 fun huntyped => hmaster (.inr ⟨line, hfirst, huntyped⟩)
      obtain ⟨type, htype⟩ := exists_type_value_iff.2 htyped
      exact ⟨type, line, hfirst, htype⟩

/-- The scan for a resource has one code for its faults. -/
theorem code_of_script_resource (h : scriptResource lines = .error fault) :
    (BuildFault.scene fault).code = "script-resource" := by
  induction lines with
  | nil => cases h
  | cons line lines ih =>
      rw [scriptResource] at h
      split at h
      · exact ih h
      · split at h
        · cases h
        · cases h
          rfl

/-- The scan for nodes has one code for its faults. -/
theorem code_of_master (h : master lines = .error fault) :
    (BuildFault.scene fault).code = "master-node" := by
  unfold master at h
  split at h
  · cases h
    rfl
  · next line others _ =>
      cases htype : typeOf line with
      | ok type => simp [htype, Except.map] at h
      | error fault' =>
          obtain rfl : fault' = fault := by simpa [htype, Except.map] using h
          unfold typeOf at htype
          split at htype
          · cases htype
            rfl
          · split at htype
            · cases htype
            · cases htype
              rfl

/-! ## Edits -/

/-- The resource is looked for among the lines with its mark. -/
theorem script_resource_resource_lines (lines : List (List Char)) :
    scriptResource (resourceLines lines) = scriptResource lines := by
  induction lines with
  | nil => rfl
  | cons line lines ih =>
      unfold resourceLines at ih ⊢
      cases hafter : resourceMark.isPrefixOf? line with
      | none =>
          have hlead : resourceMark.isPrefixOf line = false := by
            rw [← List.isSome_isPrefixOf?_eq_isPrefixOf, hafter, Option.isSome_none]
          rw [List.filter_cons, hlead, if_neg Bool.false_ne_true, ih, scriptResource, hafter]
      | some rest =>
          have hlead : resourceMark.isPrefixOf line = true := by
            rw [← List.isSome_isPrefixOf?_eq_isPrefixOf, hafter, Option.isSome_some]
          rw [List.filter_cons, hlead, if_pos rfl, scriptResource, scriptResource, hafter]

/-- The master is read from the first node, and the others are only counted. -/
theorem master_congr (hfirst : (nodeLines lines).head? = (nodeLines lines').head?)
    (hcount : (nodeLines lines).length = (nodeLines lines').length) :
    master lines = master lines' := by
  unfold master
  cases hnodes : nodeLines lines with
  | nil =>
      rw [hnodes, List.length_nil] at hcount
      rw [List.length_eq_zero_iff.1 hcount.symm]
  | cons line others =>
      cases hnodes' : nodeLines lines' with
      | nil => simp [hnodes, hnodes'] at hcount
      | cons line' others' =>
          simp only [hnodes, hnodes', List.head?_cons, Option.some.injEq, List.length_cons,
            Nat.add_right_cancel_iff] at hfirst hcount
          have hothers : others.isEmpty = others'.isEmpty := by
            rw [Bool.eq_iff_iff, List.isEmpty_iff_length_eq_zero, List.isEmpty_iff_length_eq_zero,
              hcount]
          simp only [hfirst, hothers]

/-- A line that names a resource opens no node. -/
theorem not_node_of_resource (h : resourceMark <+: line) : ¬ nodeMark <+: line := by
  rintro ⟨rest, rfl⟩
  obtain ⟨rest', heq⟩ := h
  cases heq

/-- An edit keeps the marks of the lines. -/
theorem marks_of_edit (h : Edit lines lines') : marks lines = marks lines' := by
  cases h with
  | insert before after line hresource hnode =>
      have hresource : resourceMark.isPrefixOf line = false :=
        Text.is_prefix_eq_false_iff.2 hresource
      have hnode : nodeMark.isPrefixOf line = false := Text.is_prefix_eq_false_iff.2 hnode
      simp [marks, resourceLines, nodeLines, hresource, hnode]
  | swap before after resource node hresource hnode =>
      have hresource' : nodeMark.isPrefixOf resource = false :=
        Text.is_prefix_eq_false_iff.2 (not_node_of_resource hresource)
      have hnode' : resourceMark.isPrefixOf node = false :=
        Text.is_prefix_eq_false_iff.2 fun hlead => not_node_of_resource hlead hnode
      have hresource : resourceMark.isPrefixOf resource = true :=
        List.isPrefixOf_iff_prefix.2 hresource
      have hnode : nodeMark.isPrefixOf node = true := List.isPrefixOf_iff_prefix.2 hnode
      simp [marks, resourceLines, nodeLines, hresource, hresource', hnode, hnode']
  | alter before after node rest rest' hmem hnode =>
      -- The node that is changed is not the first, so it counts only as one of them.
      have hmem : node ∈ nodeLines before :=
        List.mem_filter.2 ⟨hmem, List.isPrefixOf_iff_prefix.2 hnode⟩
      obtain ⟨first, others, hbefore⟩ := List.exists_cons_of_ne_nil (List.ne_nil_of_mem hmem)
      have hnodes (tail : List Char) : marks (before ++ (nodeMark ++ tail) :: after) =
          (resourceLines before ++ resourceLines after, some first,
            others.length + (nodeLines after).length + 2) := by
        have hlead : nodeMark <+: nodeMark ++ tail := ⟨tail, rfl⟩
        have hresource : resourceMark.isPrefixOf (nodeMark ++ tail) = false :=
          Text.is_prefix_eq_false_iff.2 fun hresource => not_node_of_resource hresource hlead
        have hnode : nodeMark.isPrefixOf (nodeMark ++ tail) = true :=
          List.isPrefixOf_iff_prefix.2 hlead
        have hall : nodeLines (before ++ (nodeMark ++ tail) :: after) =
            nodeLines before ++ (nodeMark ++ tail) :: nodeLines after := by
          simp [nodeLines, hnode]
        rw [marks, hall, hbefore]
        simp [resourceLines, hresource]
        omega
      exact (hnodes rest).trans (hnodes rest').symm

/-- A run of edits keeps the marks of the lines. -/
theorem marks_of_edits (h : Relation.EqvGen Edit lines lines') : marks lines = marks lines' := by
  induction h with
  | rel lines lines' hedit => exact marks_of_edit hedit
  | refl lines => rfl
  | symm lines lines' _ ih => exact ih.symm
  | trans lines lines' lines'' _ _ ih ih' => exact ih.trans ih'

/-- Texts with the same marks are built into the same scene, or refused for the same fault. -/
theorem build_in_of_marks
    (h : marks (Text.lines contents.toList) = marks (Text.lines contents'.toList)) :
    buildIn index path contents' =
      (buildIn index path contents).map fun scene => { scene with contents := contents' } := by
  simp only [marks, Prod.mk.injEq] at h
  obtain ⟨hresources, hfirst, hcount⟩ := h
  have hresource : scriptResource (Text.lines contents'.toList) =
      scriptResource (Text.lines contents.toList) := by
    rw [← script_resource_resource_lines, ← hresources, script_resource_resource_lines]
  have hmaster := master_congr hfirst hcount
  simp only [buildIn, bind, Except.bind, hresource, ← hmaster]
  cases scriptResource (Text.lines contents.toList) with
  | error fault => rfl
  | ok resource => cases master (Text.lines contents.toList) <;> rfl

/-! ## The outcome -/

/-- A scene that is linked to one of some scripts is linked through their index. -/
theorem build_eq_build_in (scripts : List Script) (path : FilePath) (contents : String) :
    build scripts path contents = buildIn (.ofScripts scripts) path contents := by
  simp only [build, buildIn, bind, Except.bind]
  cases scriptResource (Text.lines contents.toList) with
  | error fault => rfl
  | ok resource => cases resource <;> rfl

/-- Every scene file has its outcome. -/
theorem build_in_outcome (index : ScriptIndex) (path : FilePath) (contents : String) :
    Outcome index path contents (buildIn index path contents) := by
  simp only [buildIn, bind, Except.bind]
  cases hresource : scriptResource (Text.lines contents.toList) with
  | error fault =>
      refine .unclosed fault (Classical.not_not.1 fun hclosed => ?_)
        (code_of_script_resource hresource)
      obtain ⟨resource, hnamed⟩ := exists_resource_iff.2 hclosed
      rw [(script_resource_eq_ok_iff resource).2 hnamed] at hresource
      cases hresource
  | ok resource =>
      have hnamed := (script_resource_eq_ok_iff resource).1 hresource
      cases hmaster : master (Text.lines contents.toList) with
      | error fault =>
          refine .noMaster fault (exists_resource_iff.1 ⟨resource, hnamed⟩)
            (Classical.not_not.1 fun hsome => ?_) (code_of_master hmaster)
          obtain ⟨type, htype⟩ := exists_master_type_iff.2 hsome
          rw [master_eq_ok_iff.2 ⟨htype, rfl⟩] at hmaster
          cases hmaster
      | ok pair =>
          obtain ⟨type, hasChildren⟩ := pair
          obtain ⟨htype, rfl⟩ := master_eq_ok_iff.1 hmaster
          exact .built type resource htype hnamed

/-- The type of a master node holds no quote. -/
theorem MasterType.not_mem_quote {type : String} (h : MasterType lines type) :
    '"' ∉ type.toList := by
  obtain ⟨_, _, _, _, _, _, _, _, hfree⟩ := h
  exact hfree

/-- A file is refused for its resource exactly when that is unclosed. -/
theorem Outcome.unclosed_iff (h : Outcome index path contents result) :
    (∃ fault, result = .error fault ∧ (BuildFault.scene fault).code = "script-resource") ↔
      UnclosedResource (Text.lines contents.toList) := by
  cases h with
  | unclosed fault hunclosed hcode => exact ⟨fun _ => hunclosed, fun _ => ⟨fault, rfl, hcode⟩⟩
  | noMaster fault hclosed _ hcode =>
      constructor
      · rintro ⟨_, hfault, hcode'⟩
        cases hfault
        rw [hcode] at hcode'
        exact absurd hcode' (by decide)
      · exact fun hunclosed => absurd hunclosed hclosed
  | built type resource _ hresource =>
      constructor
      · rintro ⟨_, hfault, _⟩
        cases hfault
      · exact fun hunclosed => absurd hunclosed (exists_resource_iff.1 ⟨resource, hresource⟩)

/-- A file whose resource is not unclosed is refused for its nodes exactly when it has no master. -/
theorem Outcome.no_master_iff (h : Outcome index path contents result)
    (hclosed : ¬ UnclosedResource (Text.lines contents.toList)) :
    (∃ fault, result = .error fault ∧ (BuildFault.scene fault).code = "master-node") ↔
      NoMaster (Text.lines contents.toList) := by
  cases h with
  | unclosed _ hunclosed _ => exact absurd hunclosed hclosed
  | noMaster fault _ hnone hcode => exact ⟨fun _ => hnone, fun _ => ⟨fault, rfl, hcode⟩⟩
  | built type _ htype _ =>
      constructor
      · rintro ⟨_, hfault, _⟩
        cases hfault
      · exact fun hnone => absurd hnone (exists_master_type_iff.1 ⟨type, htype⟩)

/-- Any other file is built. -/
theorem Outcome.exists_built (h : Outcome index path contents result)
    (hclosed : ¬ UnclosedResource (Text.lines contents.toList))
    (hmaster : ¬ NoMaster (Text.lines contents.toList)) :
    ∃ type resource, MasterType (Text.lines contents.toList) type ∧
      ResourceOf (Text.lines contents.toList) resource ∧
      result = .ok ⟨path.name, path.stem, path, contents, type,
        decide (2 ≤ nodeCount (Text.lines contents.toList)),
        resource.bind fun path => index.lookup path⟩ := by
  cases h with
  | unclosed _ hunclosed _ => exact absurd hunclosed hclosed
  | noMaster _ _ hnone _ => exact absurd hnone hmaster
  | built type resource htype hresource => exact ⟨type, resource, htype, hresource, rfl⟩

/-- A scene file is refused for its first resource when that is unclosed, wherever it stands; else
for its nodes when it has no master; and else it is built, with the type of the first node and with
children when there is another. Edits change nothing but the text. -/
theorem build_of_marked_lines (index : ScriptIndex) (path : FilePath) (contents : String) :
    (∀ scripts, build scripts path contents = buildIn (.ofScripts scripts) path contents) ∧
    ((∃ fault, buildIn index path contents = .error fault ∧
        (BuildFault.scene fault).code = "script-resource") ↔
      UnclosedResource (Text.lines contents.toList)) ∧
    (¬ UnclosedResource (Text.lines contents.toList) →
      ((∃ fault, buildIn index path contents = .error fault ∧
          (BuildFault.scene fault).code = "master-node") ↔
        NoMaster (Text.lines contents.toList))) ∧
    (¬ UnclosedResource (Text.lines contents.toList) →
      ¬ NoMaster (Text.lines contents.toList) →
      ∃ type resource, MasterType (Text.lines contents.toList) type ∧ '"' ∉ type.toList ∧
        ResourceOf (Text.lines contents.toList) resource ∧
        buildIn index path contents = .ok ⟨path.name, path.stem, path, contents, type,
          decide (2 ≤ nodeCount (Text.lines contents.toList)),
          resource.bind fun path => index.lookup path⟩) ∧
    ∀ contents', Relation.EqvGen Edit (Text.lines contents.toList) (Text.lines contents'.toList) →
      buildIn index path contents' =
        (buildIn index path contents).map fun scene => { scene with contents := contents' } := by
  have houtcome := build_in_outcome index path contents
  refine ⟨fun scripts => build_eq_build_in scripts path contents, houtcome.unclosed_iff,
    houtcome.no_master_iff, ?_, ?_⟩
  · intro hclosed hmaster
    obtain ⟨type, resource, htype, hresource, hbuilt⟩ := houtcome.exists_built hclosed hmaster
    exact ⟨type, resource, htype, htype.not_mem_quote, hresource, hbuilt⟩
  · intro contents' hedits
    exact build_in_of_marks (marks_of_edits hedits)

/-- A resource that is not closed is reported before a node without a type above it. -/
example : build [] ⟨.root, ["game", "Item.tscn"]⟩
    "[node ]\n[ext_resource type=\"Script\" path=\"res://Item.gd]\n" =
      .error (.unclosedResource "[ext_resource type=\"Script\" path=\"res://Item.gd]") := rfl

end SceneLint.Scene
