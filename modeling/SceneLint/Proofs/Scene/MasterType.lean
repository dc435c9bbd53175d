import SceneLint.Proofs.Scene.Outcome
import SceneLint.Scene.Rule

/-!
# Which text is taken for the type of a master node

The type of a node is looked for by its mark, which ends with a quote, and the quote that ends a
name can complete the mark as well. `type_mark_cases` says where a mark can end in a text that is
cut at its first quote. So the type of `[node name="…" type="…"]` is read from its attribute exactly
as long as the name does not end with the letters of the mark (`master_type_of_node_line`); in
`name_taken_for_type` it does, and the type is what stands between the two attributes.
-/

namespace SceneLint.Scene

/-- `masterLine name type tail` is a line that opens a node with a name, a type and what else there
is to it. -/
def masterLine (name type tail : List Char) : List Char :=
  "[node name=".toList ++ '"' :: (name ++ '"' :: (" type=".toList ++ '"' :: (type ++ '"' ::
    (tail ++ [']']))))

variable {name type tail cs before behind rest : List Char} {scripts : List Script}
  {path : FilePath} {contents : String}

/-- The type mark is a word and a quote. -/
theorem type_mark_eq : "type=\"".toList = "type=".toList ++ ['"'] := by decide

/-- In a text that is cut at its first quote, a type mark ends at that quote or stands behind it. -/
theorem type_mark_cases (hfree : '"' ∉ cs)
    (h : cs ++ '"' :: rest = before ++ "type=\"".toList ++ behind) :
    (cs = before ++ "type=".toList ∧ rest = behind) ∨
      ∃ before', before = cs ++ '"' :: before' ∧ rest = before' ++ "type=\"".toList ++ behind := by
  have hcut : Text.cut? ['"'] (cs ++ '"' :: rest) = some (cs, rest) :=
    Text.cut?_char_eq_some_iff.2 ⟨rfl, hfree⟩
  by_cases hmem : '"' ∈ before
  · obtain ⟨front, before', rfl, hfront⟩ := List.eq_append_cons_of_mem hmem
    have hcut' := Text.cut?_char_eq_some_iff.2
      ⟨h.trans (by simp : _ = front ++ '"' :: (before' ++ "type=\"".toList ++ behind)), hfront⟩
    rw [hcut, Option.some.injEq, Prod.mk.injEq] at hcut'
    obtain ⟨rfl, rfl⟩ := hcut'
    exact .inr ⟨before', rfl, rfl⟩
  · have hword : '"' ∉ before ++ "type=".toList := by
      rw [List.mem_append, not_or]
      exact ⟨hmem, by decide⟩
    have hcut' := Text.cut?_char_eq_some_iff.2
      ⟨h.trans (by simp : _ = (before ++ "type=".toList) ++ '"' :: behind), hword⟩
    rw [hcut, Option.some.injEq, Prod.mk.injEq] at hcut'
    exact .inl hcut'

/-- No type mark ends before the name of a node. -/
theorem type_mark_in_line
    (h : masterLine name type tail = before ++ "type=\"".toList ++ behind) :
    ∃ before', before = "[node name=\"".toList ++ before' ∧
      name ++ '"' :: (" type=".toList ++ '"' :: (type ++ '"' :: (tail ++ [']']))) =
        before' ++ "type=\"".toList ++ behind := by
  rcases type_mark_cases (by decide) h with ⟨heq, _⟩ | ⟨before', rfl, heq⟩
  · have hsuffix : "type=".toList <:+ "[node name=".toList := ⟨before, heq.symm⟩
    exact absurd hsuffix (by decide)
  · exact ⟨before', by simp, heq⟩

/-- A name that does not end with the letters of the mark does not touch the type. -/
theorem type_value_of_attribute (hname : '"' ∉ name) (htype : '"' ∉ type)
    (hend : ¬ "type=".toList <:+ name) :
    TypeValue (masterLine name type tail) (String.ofList type) := by
  have hsplit : masterLine name type tail = "[node name=\"".toList ++ (name ++ ['"', ' ']) ++
      "type=\"".toList ++ (type ++ '"' :: (tail ++ [']'])) := by
    have hlead : "[node name=\"".toList = "[node name=".toList ++ ['"'] := by decide
    have hspace : " type=".toList = ' ' :: "type=".toList := by decide
    unfold masterLine
    simp only [type_mark_eq, hlead, hspace, List.append_assoc, List.cons_append, List.nil_append]
  have hquoted : Quoted (type ++ '"' :: (tail ++ [']'])) (String.ofList type) := by
    refine ⟨tail ++ [']'], ?_, ?_⟩
    · rw [String.toList_ofList]
    · rwa [String.toList_ofList]
  refine ⟨_, _, hsplit, fun before behind h => ?_, hquoted⟩
  obtain ⟨before', rfl, hrest⟩ := type_mark_in_line h
  rcases type_mark_cases hname hrest with ⟨rfl, _⟩ | ⟨before'', rfl, hrest'⟩
  · exact absurd ⟨before', rfl⟩ hend
  · -- Behind the name there is a space in front of the first mark.
    have hspace : 1 ≤ before''.length := by
      rcases type_mark_cases (by decide) hrest' with ⟨heq, _⟩ | ⟨_, rfl, _⟩
      · have hlength := congrArg List.length heq
        have hone : " type=".toList.length = 1 + "type=".toList.length := by decide
        rw [List.length_append, hone] at hlength
        omega
      · simp
    simp only [List.length_append, List.length_cons, List.length_nil]
    omega

/-- A name that ends with the letters of the mark completes it with its quote. -/
theorem type_value_of_name (hname : '"' ∉ name) (hend : "type=".toList <:+ name) :
    TypeValue (masterLine name type tail) " type=" := by
  obtain ⟨front, rfl⟩ := hend
  have hsplit : masterLine (front ++ "type=".toList) type tail =
      "[node name=\"".toList ++ front ++ "type=\"".toList ++
        (" type=".toList ++ '"' :: (type ++ '"' :: (tail ++ [']']))) := by
    have hlead : "[node name=\"".toList = "[node name=".toList ++ ['"'] := by decide
    unfold masterLine
    simp only [type_mark_eq, hlead, List.append_assoc, List.cons_append, List.nil_append]
  have hquoted : Quoted (" type=".toList ++ '"' :: (type ++ '"' :: (tail ++ [']']))) " type=" :=
    ⟨_, rfl, by decide⟩
  refine ⟨_, _, hsplit, fun before behind h => ?_, hquoted⟩
  obtain ⟨before', rfl, hrest⟩ := type_mark_in_line h
  have hlength : front.length ≤ before'.length := by
    rcases type_mark_cases hname hrest with ⟨heq, _⟩ | ⟨_, rfl, _⟩
    · exact Nat.le_of_eq (congrArg List.length (List.append_cancel_right heq))
    · simp only [List.length_append]
      omega
  simp only [List.length_append]
  omega

/-- A scene of which the first node has a name and a type has this type, unless its name ends with
the letters of the type mark: then the text between the two attributes is taken for the type. -/
theorem master_type_of_node_line (hclosed : ¬ UnclosedResource (Text.lines contents.toList))
    (hfirst : FirstLine "[node ".toList (Text.lines contents.toList) (masterLine name type tail))
    (hname : '"' ∉ name) (htype : '"' ∉ type) :
    ∃ scene, build scripts path contents = .ok scene ∧
      (¬ "type=".toList <:+ name → scene.masterType = String.ofList type) ∧
      ("type=".toList <:+ name → scene.masterType = " type=") := by
  obtain ⟨resource, hresource⟩ := exists_resource_iff.2 hclosed
  by_cases hend : "type=".toList <:+ name
  · have hmaster : MasterType (Text.lines contents.toList) " type=" :=
      ⟨_, hfirst, type_value_of_name hname hend⟩
    refine ⟨_, build_eq_ok_iff.2 ⟨_, _, hmaster, ⟨resource, hresource, rfl⟩, rfl⟩, ?_, ?_⟩
    · exact fun hfree => absurd hend hfree
    · exact fun _ => rfl
  · have hmaster : MasterType (Text.lines contents.toList) (String.ofList type) :=
      ⟨_, hfirst, type_value_of_attribute hname htype hend⟩
    refine ⟨_, build_eq_ok_iff.2 ⟨_, _, hmaster, ⟨resource, hresource, rfl⟩, rfl⟩, ?_, ?_⟩
    · exact fun _ => rfl
    · exact fun hend' => absurd hend' hend

/-- `markedText` is a scene with two nodes, the first of which has the type mark in its name. -/
def markedText : String := "[node name=\"a type=b\" type=\"Node\" ]\n[node ]\n"

/-- A name that holds the letters of the mark, but does not end with them, is no type. -/
theorem master_type_of_node_line_inner :
    ¬ UnclosedResource (Text.lines markedText.toList) ∧
    FirstLine "[node ".toList (Text.lines markedText.toList)
      (masterLine "a type=b".toList "Node".toList " ".toList) ∧
    '"' ∉ "a type=b".toList ∧ '"' ∉ "Node".toList ∧
    ∃ scene, build [] ⟨.root, ["game", "Item.tscn"]⟩ markedText = .ok scene ∧
      scene.masterType = "Node" := by
  have hclosed : ¬ UnclosedResource (Text.lines markedText.toList) :=
    exists_resource_iff.1 ⟨none, (script_resource_eq_ok_iff _).1 (by rfl)⟩
  have hfirst : FirstLine "[node ".toList (Text.lines markedText.toList)
      (masterLine "a type=b".toList "Node".toList " ".toList) :=
    first_line_iff.2 (by rfl)
  have hname : '"' ∉ "a type=b".toList := by decide
  have htype : '"' ∉ "Node".toList := by decide
  obtain ⟨scene, hbuild, hkept, _⟩ := master_type_of_node_line hclosed hfirst hname htype
  exact ⟨hclosed, hfirst, hname, htype, scene, hbuild, hkept (by decide)⟩

/-- The name of the only node ends with the letters of the mark, and the scene is refused a type
that it does not have. -/
theorem name_taken_for_type :
    ¬ UnclosedResource (Text.lines "[node name=\"type=\" type=\"Node\"]\n".toList) ∧
    FirstLine "[node ".toList (Text.lines "[node name=\"type=\" type=\"Node\"]\n".toList)
      (masterLine "type=".toList "Node".toList []) ∧
    '"' ∉ "type=".toList ∧ '"' ∉ "Node".toList ∧
    ∃ scene, build [] ⟨.root, ["game", "Item.tscn"]⟩ "[node name=\"type=\" type=\"Node\"]\n" =
        .ok scene ∧
      scene.masterType = " type=" ∧ scene.masterType ≠ "Node" ∧
      scene.verdict ["Node", "Node2D", "Node3D"] true =
        [.masterType ["Node", "Node2D", "Node3D"]] := by
  refine ⟨?_, first_line_iff.2 (by rfl), by decide, by decide, _, by rfl, by rfl, by decide, by rfl⟩
  exact exists_resource_iff.1 ⟨none, (script_resource_eq_ok_iff _).1 (by rfl)⟩

end SceneLint.Scene
