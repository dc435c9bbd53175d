import SceneLint.Proofs.Text.Search
import SceneLint.Scene.Basic

/-!
# What the lines of a scene say

`ResourceOf lines resource` and `MasterType lines type` say what a scene's lines name as its script
resource and as the type of its master node, by the places of marks and quotes. The scans give
exactly that: `script_resource_eq_ok_iff` and `master_eq_ok_iff`. `lookup_foldl_add` says that the
index of scripts gives the first script with a resource path, and `build_eq_ok_iff` puts the three
together.
-/

namespace SceneLint.Scene

/-- `FirstLine lead lines line` says that `line` is the first line that starts with `lead`. -/
def FirstLine (lead : List Char) (lines : List (List Char)) (line : List Char) : Prop :=
  lead <+: line ∧ ∃ before after, lines = before ++ line :: after ∧
    ∀ other ∈ before, ¬ lead <+: other

/-- `Quoted cs value` says that `value` stands at the front of a text, up to the first quote. -/
def Quoted (cs : List Char) (value : String) : Prop :=
  ∃ rest, cs = value.toList ++ '"' :: rest ∧ '"' ∉ value.toList

/-- `ResourceOf lines resource` says what the first line that names a script resource names, if
there is such a line. -/
inductive ResourceOf (lines : List (List Char)) : Option String → Prop where
  | none :
      (∀ line ∈ lines, ¬ "[ext_resource type=\"Script\" path=\"".toList <+: line) →
      ResourceOf lines none
  | some (path rest) :
      FirstLine "[ext_resource type=\"Script\" path=\"".toList lines
        ("[ext_resource type=\"Script\" path=\"".toList ++ rest) →
      Quoted rest path → ResourceOf lines (some path)

/-- `TypeValue line type` says that `type` is the quoted text behind the first type mark of a
line. -/
def TypeValue (line : List Char) (type : String) : Prop :=
  ∃ front rest, line = front ++ "type=\"".toList ++ rest ∧
    (∀ f r, line = f ++ "type=\"".toList ++ r → front.length ≤ f.length) ∧ Quoted rest type

/-- `MasterType lines type` says that `type` is the type on the first line that opens a node. -/
def MasterType (lines : List (List Char)) (type : String) : Prop :=
  ∃ line, FirstLine "[node ".toList lines line ∧ TypeValue line type

/-- `nodeCount lines` is the number of lines that open a node. -/
def nodeCount (lines : List (List Char)) : Nat :=
  lines.countP ("[node ".toList.isPrefixOf ·)

variable {lead line : List Char} {lines : List (List Char)} {type : String}

/-! ## Marks and quotes -/

/-- The text before the next quote is what is quoted. -/
theorem until_quote?_eq_some_iff {cs : List Char} (value : String) :
    untilQuote? cs = some value.toList ↔ Quoted cs value := by
  unfold untilQuote?
  rw [Option.map_eq_some_iff]
  constructor
  · intro hcut
    obtain ⟨⟨front, rest⟩, hcut, rfl⟩ := hcut
    exact ⟨rest, Text.cut?_char_eq_some_iff.1 hcut⟩
  · intro hquoted
    obtain ⟨rest, hquoted⟩ := hquoted
    exact ⟨(value.toList, rest), Text.cut?_char_eq_some_iff.2 hquoted, rfl⟩

/-- The type read from a line is the one behind its type mark. -/
theorem type_of_eq_ok_iff : typeOf line = .ok type ↔ TypeValue line type := by
  unfold typeOf
  constructor
  · intro h
    split at h
    · cases h
    · next front rest hcut =>
        obtain ⟨heq, hfirst⟩ := Text.cut?_eq_some_iff.1 hcut
        split at h
        · next value hvalue =>
            cases h
            refine ⟨front, rest, heq, hfirst, (until_quote?_eq_some_iff _).1 ?_⟩
            rw [hvalue, String.toList_ofList]
        · cases h
  · intro hvalue
    obtain ⟨front, rest, heq, hfirst, hquoted⟩ := hvalue
    have hcut : Text.cut? typeMark line = some (front, rest) :=
      Text.cut?_eq_some_iff.2 ⟨heq, hfirst⟩
    simp only [hcut, (until_quote?_eq_some_iff type).2 hquoted, String.ofList_toList]

/-- The first of the lines with a start is found by looking for it. -/
theorem first_line_iff :
    FirstLine lead lines line ↔ lines.find? (List.isPrefixOf lead) = some line := by
  simp only [List.find?_eq_some_iff_append, FirstLine, List.isPrefixOf_iff_prefix,
    Bool.not_eq_true', ← Bool.not_eq_true]

/-! ## The two scans -/

/-- A line that names no script resource does not count. -/
theorem resource_of_cons (h : ¬ resourceMark <+: line) (resource : Option String) :
    ResourceOf (line :: lines) resource ↔ ResourceOf lines resource := by
  have hfind : (line :: lines).find? (List.isPrefixOf resourceMark) =
      lines.find? (List.isPrefixOf resourceMark) := by
    rw [← List.isPrefixOf_iff_prefix, Bool.not_eq_true] at h
    rw [List.find?_cons, h]
  constructor
  · intro hresource
    rcases hresource with hnone | ⟨path, rest, hfirst, hquoted⟩
    · exact .none fun other hother => hnone other (List.mem_cons_of_mem _ hother)
    · exact .some path rest (first_line_iff.2 (hfind ▸ first_line_iff.1 hfirst)) hquoted
  · intro hresource
    rcases hresource with hnone | ⟨path, rest, hfirst, hquoted⟩
    · exact .none (List.forall_mem_cons.2 ⟨h, hnone⟩)
    · exact .some path rest (first_line_iff.2 (hfind ▸ first_line_iff.1 hfirst)) hquoted

/-- The scan for a script resource gives the one that the lines name first. -/
theorem script_resource_eq_ok_iff (resource : Option String) :
    scriptResource lines = .ok resource ↔ ResourceOf lines resource := by
  induction lines with
  | nil =>
      constructor
      · intro h
        cases h
        exact .none (by simp)
      · intro hresource
        rcases hresource with _ | ⟨path, rest, hfirst, _⟩
        · rfl
        · simp [first_line_iff] at hfirst
  | cons line lines ih =>
      rw [scriptResource]
      split
      · next hafter => rw [ih, resource_of_cons (Text.prefix_rest_eq_none_iff.1 hafter)]
      · next rest hafter =>
          -- This line is the first with the mark, so what the lines name stands on it.
          have hline := (List.isPrefixOf?_eq_some_iff_append_eq.1 hafter).symm
          subst hline
          have hfind : FirstLine resourceMark ((resourceMark ++ rest) :: lines)
              (resourceMark ++ rest) := ⟨⟨rest, rfl⟩, [], lines, rfl, by simp⟩
          constructor
          · intro h
            split at h
            · next value hvalue =>
                cases h
                refine .some _ rest hfind ((until_quote?_eq_some_iff _).1 ?_)
                rw [hvalue, String.toList_ofList]
            · cases h
          · intro hresource
            rcases hresource with hnone | ⟨path, rest', hfirst, hquoted⟩
            · exact absurd ⟨rest, rfl⟩ (hnone _ List.mem_cons_self)
            · have heq := (first_line_iff.1 hfirst).symm.trans (first_line_iff.1 hfind)
              obtain rfl := List.append_cancel_left (Option.some.inj heq)
              simp only [(until_quote?_eq_some_iff path).2 hquoted, String.ofList_toList]

/-- The lines that open a node are as many as are counted. -/
theorem length_node_lines : (nodeLines lines).length = nodeCount lines := by
  rw [nodeLines, nodeCount, List.countP_eq_length_filter]
  rfl

/-- The type of the master node is the one read from the first line that opens a node. -/
theorem master_type_iff : MasterType lines type ↔
    ∃ line others, nodeLines lines = line :: others ∧ typeOf line = .ok type := by
  have hhead : ∀ line, FirstLine nodeMark lines line ↔
      ∃ others, nodeLines lines = line :: others := by
    intro line
    rw [first_line_iff, ← List.head?_filter, List.head?_eq_some_iff]
    rfl
  constructor
  · intro hmaster
    obtain ⟨line, hfirst, htype⟩ := hmaster
    obtain ⟨others, hnodes⟩ := (hhead line).1 hfirst
    exact ⟨line, others, hnodes, type_of_eq_ok_iff.2 htype⟩
  · intro hread
    obtain ⟨line, others, hnodes, htype⟩ := hread
    exact ⟨line, (hhead line).2 ⟨others, hnodes⟩, type_of_eq_ok_iff.1 htype⟩

/-- The scan for nodes gives the type of the first, and whether there are two. -/
theorem master_eq_ok_iff {hasChildren : Bool} : master lines = .ok (type, hasChildren) ↔
    MasterType lines type ∧ hasChildren = decide (2 ≤ nodeCount lines) := by
  rw [← length_node_lines, master_type_iff, master]
  cases hnodes : nodeLines lines with
  | nil => simp
  | cons line others =>
      have hcount : (!others.isEmpty) = decide (2 ≤ (line :: others).length) := by
        cases others <;> simp
      simp only [← hcount]
      constructor
      · intro h
        cases htype : typeOf line with
        | error fault =>
            rw [htype] at h
            cases h
        | ok value =>
            rw [htype] at h
            cases h
            exact ⟨⟨line, others, rfl, htype⟩, rfl⟩
      · intro hmaster
        obtain ⟨⟨line', others', heq, htype⟩, rfl⟩ := hmaster
        cases heq
        rw [htype]
        rfl

/-- The lines of a scene name one resource at most. -/
theorem ResourceOf.unique {resource resource' : Option String} (h : ResourceOf lines resource)
    (h' : ResourceOf lines resource') : resource = resource' := by
  rw [← script_resource_eq_ok_iff] at h h'
  exact Except.ok.inj (h.symm.trans h')

/-- The master node of a scene has one type at most. -/
theorem MasterType.unique {type' : String} (h : MasterType lines type)
    (h' : MasterType lines type') : type = type' := by
  have heq := (master_eq_ok_iff.2 ⟨h, rfl⟩).symm.trans (master_eq_ok_iff.2 ⟨h', rfl⟩)
  exact (Prod.mk.inj (Except.ok.inj heq)).1

/-! ## The index of scripts -/

/-- A script that is entered is found where nothing was. -/
theorem lookup_add (index : ScriptIndex) (s : Script) (resource : String) :
    (index.add s).lookup resource =
      (index.lookup resource).or (if s.resource == resource then some s else none) := by
  unfold ScriptIndex.add
  -- A path that is taken keeps its script, so only the paths of `s` and of the search count.
  by_cases heq : s.resource = resource
  · subst heq
    cases hfound : index.lookup s.resource with
    | none => simp [List.lookup_append, hfound]
    | some found => simp [hfound]
  · have hne : (resource == s.resource) = false := beq_false_of_ne (Ne.symm heq)
    split
    · simp [heq]
    · simp [List.lookup_append, List.lookup_cons, heq, hne]

/-- Scripts that are entered one after the other are found by the first with a resource path. -/
theorem lookup_foldl_add (index : ScriptIndex) (scripts : List Script) (resource : String) :
    (scripts.foldl ScriptIndex.add index).lookup resource =
      (index.lookup resource).or (scripts.find? (fun s => s.resource == resource)) := by
  induction scripts generalizing index with
  | nil => simp
  | cons s scripts ih =>
      rw [List.foldl_cons, ih, lookup_add, Option.or_assoc, List.find?_cons]
      congr 1
      cases s.resource == resource <;> rfl

/-- The script that is linked is the first with the resource path. -/
theorem linked?_eq (scripts : List Script) (resource : Option String) :
    linked? scripts resource =
      resource.bind fun path => scripts.find? (fun s => s.resource == path) := by
  cases resource with
  | none => rfl
  | some path => exact lookup_foldl_add [] scripts path

/-- `Linked scripts lines script?` says that `script?` is the first script with the resource path
that the lines name, if they name one and there is such a script. -/
def Linked (scripts : List Script) (lines : List (List Char)) (script? : Option Script) : Prop :=
  ∃ resource, ResourceOf lines resource ∧
    script? = resource.bind fun path => scripts.find? (fun s => s.resource == path)

/-- A scene is linked to one script at most. -/
theorem Linked.unique {scripts : List Script} {script? script?' : Option Script}
    (h : Linked scripts lines script?) (h' : Linked scripts lines script?') :
    script? = script?' := by
  obtain ⟨resource, hresource, rfl⟩ := h
  obtain ⟨resource', hresource', rfl⟩ := h'
  rw [hresource.unique hresource']

/-- A scene that is built has the linked script, the type of the master node, and children when
there are two nodes. -/
theorem build_eq_ok_iff {scripts : List Script} {path : FilePath} {contents : String}
    {scene : Scene} : build scripts path contents = .ok scene ↔
      ∃ type script?, MasterType (Text.lines contents.toList) type ∧
        Linked scripts (Text.lines contents.toList) script? ∧
        scene = ⟨path.name, path.stem, path, contents, type,
          decide (2 ≤ nodeCount (Text.lines contents.toList)), script?⟩ := by
  constructor
  · intro h
    simp only [build, bind, Except.bind] at h
    split at h
    · cases h
    · next resource hresource =>
        split at h
        · cases h
        · next pair hmaster =>
            obtain ⟨type, hasChildren⟩ := pair
            obtain ⟨htype, rfl⟩ := master_eq_ok_iff.1 hmaster
            cases h
            have hnamed := (script_resource_eq_ok_iff resource).1 hresource
            exact ⟨type, _, htype, ⟨resource, hnamed, linked?_eq scripts resource⟩, rfl⟩
  · intro hparts
    obtain ⟨type, script?, htype, ⟨resource, hresource, rfl⟩, rfl⟩ := hparts
    have hmaster := master_eq_ok_iff.2 ⟨htype, rfl⟩
    simp only [build, bind, Except.bind, (script_resource_eq_ok_iff resource).2 hresource, hmaster,
      linked?_eq]
    rfl

end SceneLint.Scene
