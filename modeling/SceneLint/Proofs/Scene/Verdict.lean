import SceneLint.Proofs.Rule.Reports
import SceneLint.Proofs.Scene.Scan
import SceneLint.Scene.Rule

/-!
# The verdict on a scene

`Breaks allowed count type script? code` says which conventions a scene breaks, given the number of
its nodes, the type of its master node and its script. `verdict_of_built_scene` says that the
verdict on every scene that can be built reports exactly what the lines of its text and the list of
scripts break.
-/

namespace SceneLint.Scene

/-- `conventions` is the codes of the conventions for scenes, in the order of reporting. -/
def conventions : List String :=
  ["children-with-script", "master-type", "reference-on-master", "script-on-typed-master"]

/-- `Breaks allowed count type script? code` says that a scene with `count` nodes, a master node of
this type and this script breaks the convention with this code. -/
inductive Breaks (allowed : List String) (count : Nat) (type : String) (script? : Option Script) :
    String → Prop where
  | children (script) :
      2 ≤ count → script? = some script →
      Breaks allowed count type script? "children-with-script"
  | masterType : type ∉ allowed → Breaks allowed count type script? "master-type"
  | reference (script) :
      script? = some script → script.kind = .reference →
      Breaks allowed count type script? "reference-on-master"
  | typedMaster (script) :
      script? = some script → script.kind ≠ .reference → type ≠ "Node" →
      Breaks allowed count type script? "script-on-typed-master"

/-- `ruleCodes rule` is the codes under which breaches of a rule are reported. -/
def ruleCodes : SceneRule → List String
  | .childrenOrScript => ["children-with-script"]
  | .masterType => ["master-type"]
  | .attachedScript => ["reference-on-master", "script-on-typed-master"]

variable {allowed : List String} {count : Nat} {s : Scene} {rule : SceneRule} {b : SceneBreach}

/-- A breach is reported under a code of the rule it breaks. -/
theorem code_of_breach (h : rule.breach? allowed s = some b) : b.code ∈ ruleCodes rule := by
  unfold SceneRule.breach? at h
  repeat' split at h
  all_goals cases h
  all_goals simp [SceneBreach.code, ruleCodes]

/-- What a rule finds fault with breaks a convention. -/
theorem breaks_of_breach (hchildren : s.hasChildren = decide (2 ≤ count))
    (h : rule.breach? allowed s = some b) : Breaks allowed count s.masterType s.script b.code := by
  cases rule with
  | childrenOrScript =>
      simp only [SceneRule.breach?] at h
      split at h
      · next hboth =>
          cases h
          rw [hchildren, Bool.and_eq_true, decide_eq_true_eq] at hboth
          obtain ⟨script, hscript⟩ := Option.isSome_iff_exists.1 hboth.2
          exact .children script hboth.1 hscript
      · cases h
  | masterType =>
      simp only [SceneRule.breach?] at h
      split at h
      · cases h
      · next hallowed =>
          cases h
          exact .masterType (by simpa using hallowed)
  | attachedScript =>
      simp only [SceneRule.breach?] at h
      split at h
      · cases h
      · next script hscript =>
          split at h
          · next hkind =>
              cases h
              exact .reference script hscript hkind
          · next hkind =>
              split at h
              · cases h
              · next htype =>
                  cases h
                  exact .typedMaster script hscript hkind htype

/-- A rule finds fault with what breaks a convention. -/
theorem breach_of_breaks (hchildren : s.hasChildren = decide (2 ≤ count)) {code : String}
    (h : Breaks allowed count s.masterType s.script code) :
    ∃ rule ∈ SceneRule.all, ∃ b, rule.breach? allowed s = some b ∧ b.code = code := by
  cases h with
  | children script hcount hscript =>
      refine ⟨.childrenOrScript, by decide, .childrenWithScript, ?_, rfl⟩
      simp [SceneRule.breach?, hchildren, hcount, hscript]
  | masterType htype =>
      refine ⟨.masterType, by decide, .masterType allowed, ?_, rfl⟩
      simp [SceneRule.breach?, htype]
  | reference script hscript hkind =>
      refine ⟨.attachedScript, by decide, .referenceOnMaster, ?_, rfl⟩
      simp [SceneRule.breach?, hscript, hkind]
  | typedMaster script hscript hkind htype =>
      refine ⟨.attachedScript, by decide, .scriptOnTypedMaster, ?_, rfl⟩
      simp [SceneRule.breach?, hscript, hkind, htype]

/-- The verdict on a scene whose nodes are counted reports what it breaks. -/
theorem verdict_reports (s : Scene) (hchildren : s.hasChildren = decide (2 ≤ count)) :
    Reports conventions (Breaks allowed count s.masterType s.script)
      ((s.verdict allowed false).map SceneBreach.code) := by
  show Reports (SceneRule.all.flatMap ruleCodes) _
    ((SceneRule.all.filterMap fun rule => rule.breach? allowed s).map SceneBreach.code)
  refine reports_of_rules ?_ ?_ ?_ ?_
  · intro rule _ b hbreach
    exact code_of_breach hbreach
  · decide
  · intro rule _ b hbreach
    exact breaks_of_breach hchildren hbreach
  · intro code hbreaks
    exact breach_of_breaks hchildren hbreaks

/-- A scene that breaks a convention is rejected, whether all breaches are reported or one. -/
theorem verdict_ne_nil (s : Scene) (hchildren : s.hasChildren = decide (2 ≤ count)) {code : String}
    (h : Breaks allowed count s.masterType s.script code) (failFast : Bool) :
    s.verdict allowed failFast ≠ [] := by
  have hmem := ((verdict_reports s hchildren).mem_iff code).2 h
  have hbreaches : s.breaches allowed ≠ [] := by
    intro hnil
    rw [show s.verdict allowed false = s.breaches allowed from rfl, hnil] at hmem
    cases hmem
  cases failFast with
  | false => exact hbreaches
  | true =>
      intro hnil
      rcases List.take_eq_nil_iff.1 hnil with hone | hnone
      · cases hone
      · exact hbreaches hnone

/-- The verdict on a scene that is built reports the conventions that its lines break with the first
script of the resource path they name. A scene with two nodes and a script is always rejected. -/
theorem verdict_of_built_scene {scripts : List Script} {path : FilePath} {contents : String}
    {scene : Scene} (h : build scripts path contents = .ok scene) (allowed : List String) :
    (∃ type, MasterType (Text.lines contents.toList) type) ∧
    (∃ script?, Linked scripts (Text.lines contents.toList) script?) ∧
    ∀ type script?, MasterType (Text.lines contents.toList) type →
      Linked scripts (Text.lines contents.toList) script? →
      scene.script = script? ∧
      Reports conventions
        (Breaks allowed (nodeCount (Text.lines contents.toList)) type script?)
        ((scene.verdict allowed false).map SceneBreach.code) ∧
      (2 ≤ nodeCount (Text.lines contents.toList) → script?.isSome = true →
        ∀ failFast, scene.verdict allowed failFast ≠ []) := by
  obtain ⟨type, script?, htype, hlinked, hscene⟩ := build_eq_ok_iff.1 h
  have hmaster : MasterType (Text.lines contents.toList) scene.masterType := by
    rw [hscene]
    exact htype
  have hscript : Linked scripts (Text.lines contents.toList) scene.script := by
    rw [hscene]
    exact hlinked
  have hchildren : scene.hasChildren = decide (2 ≤ nodeCount (Text.lines contents.toList)) := by
    rw [hscene]
  refine ⟨⟨_, hmaster⟩, ⟨_, hscript⟩, ?_⟩
  -- Both relations hold of one value each, so what they hold of is what was built.
  intro type' script?' htype' hlinked'
  obtain rfl := hmaster.unique htype'
  obtain rfl := hscript.unique hlinked'
  refine ⟨rfl, verdict_reports scene hchildren, ?_⟩
  intro hcount hsome
  obtain ⟨script, hsome⟩ := Option.isSome_iff_exists.1 hsome
  exact verdict_ne_nil scene hchildren (.children script hcount hsome)

/-- `twin kind` is a script of the given kind; all of them have one resource path. -/
def twin (kind : ScriptKind) : Script :=
  ⟨"Item.gd", "Item", ⟨.root, ["game", "Item.gd"]⟩, "res://Item.gd", "", kind, none, none⟩

/-- `sampleScene` has two nodes, a master node of another type, and a reference. -/
def sampleScene : Scene where
  fullName := "Item.tscn"
  name := "Item"
  path := ⟨.root, ["game", "Item.tscn"]⟩
  contents :=
    "[ext_resource type=\"Script\" path=\"res://Item.gd\"]\n[node type=\"Control\"]\n[node ]\n"
  masterType := "Control"
  hasChildren := true
  script := some (twin .reference)

/-- Of two scripts with one resource path the first is linked, and three conventions are broken. -/
theorem verdict_of_sample_scene :
    build [twin .reference, twin .behaviour] sampleScene.path sampleScene.contents =
        .ok sampleScene ∧
      sampleScene.script = some (twin .reference) ∧
      Reports conventions (Breaks ["Node", "Node2D"] 2 "Control" (some (twin .reference)))
        ["children-with-script", "master-type", "reference-on-master"] ∧
      ∀ failFast, sampleScene.verdict ["Node", "Node2D"] failFast ≠ [] := by
  have hbuild : build [twin .reference, twin .behaviour] sampleScene.path sampleScene.contents =
      .ok sampleScene := by rfl
  have hmaster : MasterType (Text.lines sampleScene.contents.toList) "Control" :=
    (master_eq_ok_iff.1 (by rfl : master _ = .ok ("Control", true))).1
  have hlinked : Linked [twin .reference, twin .behaviour]
      (Text.lines sampleScene.contents.toList) (some (twin .reference)) :=
    ⟨some "res://Item.gd", (script_resource_eq_ok_iff _).1 (by rfl), rfl⟩
  obtain ⟨_, _, hall⟩ := verdict_of_built_scene hbuild ["Node", "Node2D"]
  obtain ⟨hscript, hreports, hrejected⟩ := hall "Control" (some (twin .reference)) hmaster hlinked
  exact ⟨hbuild, hscript, hreports, hrejected (by decide) rfl⟩

end SceneLint.Scene
