import Mathlib.Data.List.Basic
import SceneLint.Proofs.Script.Headers
import SceneLint.Proofs.Script.Segments
import SceneLint.Proofs.Text.Lines
import SceneLint.Scene.Rule
import SceneLint.Script.Rule

/-!
# Line endings change no verdict

Scripts and scenes are built from lines, and lines do not show how they end. One rule looks at the
whole text instead: variables are looked for between keywords, wherever these stand. There a
carriage return before a line feed stays inside its segment (`segments_with_returns`) and says
nothing about types (`is_untyped_with_returns`). `line_endings_immaterial` puts both together: a
text whose lines end with a line feed and the same text with carriage returns are built, refused
and judged alike.
-/

namespace SceneLint

open Text (withReturns returned)

namespace Script

variable {word cs : List Char} {c : Char}

/-! ## Segments -/

/-- A word that holds no character of a line ending stands at the front of a text with carriage
returns only if it stands there without them. -/
theorem starts_of_with_returns (hword : '\r' ∉ word) (hword' : '\n' ∉ word)
    (h : word <+: withReturns cs) : word <+: cs := by
  induction word generalizing cs with
  | nil => exact List.nil_prefix
  | cons d word ih =>
      rw [List.mem_cons, not_or] at hword hword'
      cases cs with
      | nil => exact h
      | cons c cs =>
          by_cases hc : c = '\n'
          · subst hc
            rw [Text.with_returns_line_feed, List.cons_prefix_cons] at h
            exact absurd h.1.symm hword.1
          · rw [Text.with_returns_cons hc, List.cons_prefix_cons] at h
            rw [List.cons_prefix_cons]
            exact ⟨h.1, ih hword.2 hword'.2 h.2⟩

/-- A character that ends no line is put in front of a segment with or without its carriage
returns. -/
theorem map_push_front (h : c ≠ '\n') (pieces : List (List Char)) :
    (pushFront c pieces).map withReturns = pushFront c (pieces.map withReturns) := by
  cases pieces with
  | nil => simp [pushFront, withReturns, h]
  | cons piece pieces =>
      rw [pushFront, List.map_cons, Text.with_returns_cons h]
      rfl

/-- A line feed is put in front of a segment behind its carriage return. -/
theorem map_push_front_line_feed (pieces : List (List Char)) :
    (pushFront '\n' pieces).map withReturns =
      pushFront '\r' (pushFront '\n' (pieces.map withReturns)) := by
  cases pieces <;> rfl

/-- Carriage returns before line feeds stay inside their segments. -/
theorem segments_from_with_returns (o : Bool) (cs : List Char) :
    segmentsFrom o (withReturns cs) = (segmentsFrom o cs).map withReturns := by
  fun_induction segmentsFrom o cs with
  | case1 => rfl
  | case2 cs ih => exact congrArg ([] :: ·) ih
  | case3 o c cs hkeyword ih =>
      by_cases hc : c = '\n'
      · -- No keyword stands at the carriage return, and none may stand behind it.
        subst hc
        have hreturn : ¬ (o = true ∧ keyword <+: '\r' :: '\n' :: withReturns cs) := by
          simp [keyword]
        have hfeed : ¬ (opensAfter '\r' = true ∧ keyword <+: '\n' :: withReturns cs) := by
          simp [keyword]
        rw [Text.with_returns_line_feed, segments_from_cons hreturn, segments_from_cons hfeed, ih,
          map_push_front_line_feed]
      · have hfree : ¬ (o = true ∧ keyword <+: c :: withReturns cs) := by
          rintro ⟨rfl, hlead⟩
          rw [← Text.with_returns_cons hc] at hlead
          obtain ⟨rest, hrest⟩ := starts_of_with_returns (by decide) (by decide) hlead
          obtain ⟨rfl, rfl⟩ := List.cons.inj hrest
          exact hkeyword rest rfl rfl rfl
        rw [Text.with_returns_cons hc, segments_from_cons hfree, ih, map_push_front hc]

/-- A carriage return neither assigns nor names a type. -/
theorem is_untyped_with_returns (segment : List Char) :
    isUntyped (withReturns segment) = isUntyped segment := by
  induction segment with
  | nil => rfl
  | cons c segment ih =>
      by_cases hc : c = '\n'
      · subst hc
        simp [Text.with_returns_line_feed, isUntyped, ih]
      · rw [Text.with_returns_cons hc, isUntyped, isUntyped, ih]

/-- A text has an untyped segment with carriage returns before its line feeds exactly when it has
one without. -/
theorem any_untyped_with_returns (cs : List Char) :
    (segments (withReturns cs)).any isUntyped = (segments cs).any isUntyped := by
  rw [segments, segments_from_with_returns, List.any_map]
  congr 1
  funext segment
  exact is_untyped_with_returns segment

/-- Giving line feeds their carriage returns adds no other character to a text. -/
theorem contains_with_returns (h : c ≠ '\r') (cs : List Char) :
    (withReturns cs).contains c = cs.contains c := by
  rw [Bool.eq_iff_iff, List.contains_iff_mem, List.contains_iff_mem]
  induction cs with
  | nil => rfl
  | cons d cs ih =>
      by_cases hd : d = '\n'
      · subst hd
        simp [Text.with_returns_line_feed, h, ih]
      · simp [Text.with_returns_cons hd, ih]

/-! ## Scripts -/

/-- `retold s` is a script of which the text has carriage returns before its line feeds. -/
def retold (s : Script) : Script :=
  { s with contents := returned s.contents }

/-- A script breaks a rule in the same way with either line ending. -/
theorem breach?_retold {s : Script} (h : '\r' ∉ s.contents.toList) (rule : ScriptRule) :
    rule.breach? s.retold = rule.breach? s := by
  cases rule with
  | naming => rfl
  | className => rfl
  | noClassName => rfl
  | base => rfl
  | nodePath =>
      simp only [ScriptRule.breach?, retold, Text.to_list_returned]
      rw [contains_with_returns (by decide)]
  | staticTyping =>
      simp only [ScriptRule.breach?, retold, Text.to_list_returned, any_untyped_with_returns]
  | exportOnly =>
      have hlines : s.retold.lines = s.lines := by
        rw [lines, lines, retold, Text.to_list_returned, Text.lines_with_returns h]
      simp only [ScriptRule.breach?, hlines]

/-- The verdict on a script does not depend on its line endings. -/
theorem verdict_retold {s : Script} (h : '\r' ∉ s.contents.toList) (failFast : Bool) :
    s.retold.verdict failFast = s.verdict failFast := by
  have hbreaches : s.retold.breaches = s.breaches :=
    List.filterMap_congr fun rule _ => breach?_retold h rule
  unfold verdict
  rw [hbreaches]

/-- A script is built, or refused for the same fault, with either line ending. -/
theorem build_returned {contents : String} (h : '\r' ∉ contents.toList) (path : FilePath)
    (resource : String) :
    build path (returned contents) resource = (build path contents resource).map retold := by
  have hheaders : headers (returned contents) = headers contents := by
    rw [headers, headers, Text.to_list_returned, Text.lines_with_returns h]
  simp only [build, bind, Except.bind, hheaders]
  cases nameOf (.ofFileName path.name) path with
  | error fault => rfl
  | ok name => cases headers contents <;> rfl

end Script

namespace Scene

/-- `retold s` is a scene of which the text has carriage returns before its line feeds. -/
def retold (s : Scene) : Scene :=
  { s with contents := returned s.contents }

/-- A scene is built, or refused for the same fault, with either line ending. -/
theorem build_returned {contents : String} (h : '\r' ∉ contents.toList) (scripts : List Script)
    (path : FilePath) :
    build scripts path (returned contents) = (build scripts path contents).map retold := by
  simp only [build, bind, Except.bind, Text.to_list_returned, Text.lines_with_returns h]
  cases scriptResource (Text.lines contents.toList) with
  | error fault => rfl
  | ok resource => cases master (Text.lines contents.toList) <;> rfl

/-- The verdict on a scene does not look at its text. -/
theorem verdict_retold (s : Scene) (allowed : List String) (failFast : Bool) :
    s.retold.verdict allowed failFast = s.verdict allowed failFast := rfl

end Scene

/-- A text without carriage returns is built into the same script and the same scene, or refused for
the same fault, when every line feed is given a carriage return; only the stored text differs, and
the same breaches are reported in the same order. -/
theorem line_endings_immaterial {contents : String} (h : '\r' ∉ contents.toList) (path : FilePath)
    (resource : String) (scripts : List Script) :
    Script.build path (returned contents) resource =
      (Script.build path contents resource).map Script.retold ∧
    Scene.build scripts path (returned contents) =
      (Scene.build scripts path contents).map Scene.retold ∧
    (∀ script, Script.build path contents resource = .ok script →
      ∀ failFast, script.retold.verdict failFast = script.verdict failFast) ∧
    ∀ scene, Scene.build scripts path contents = .ok scene →
      ∀ allowed failFast,
        scene.retold.verdict allowed failFast = scene.verdict allowed failFast := by
  refine ⟨Script.build_returned h path resource, Scene.build_returned h scripts path, ?_, ?_⟩
  · intro script hbuild failFast
    obtain ⟨_, _, _, _, rfl⟩ := Script.build_eq_ok_iff.1 hbuild
    exact Script.verdict_retold h failFast
  · intro scene _ allowed failFast
    exact scene.verdict_retold allowed failFast

/-- `mixedText` can be read as a script without a class name and as a scene with one node. -/
def mixedText : String := "extends Node\n[node type=\"Node\"]\n\tvar speed = 1\n"

/-- `mixedScript` is what `mixedText` is as a script. -/
def mixedScript : Script :=
  ⟨"Item.gd", "Item", ⟨.root, ["game", "Item.gd"]⟩, "res://Item.gd", mixedText, .behaviour, none,
    some "Node"⟩

/-- `mixedScene` is what `mixedText` is as a scene. -/
def mixedScene : Scene :=
  ⟨"Item.gd", "Item", ⟨.root, ["game", "Item.gd"]⟩, mixedText, "Node", false, none⟩

/-- The mixed text is a script that breaks two rules and a scene that breaks one, with either line
ending. -/
theorem line_endings_immaterial_mixed :
    '\r' ∉ mixedText.toList ∧
    returned mixedText = "extends Node\r\n[node type=\"Node\"]\r\n\tvar speed = 1\r\n" ∧
    Script.build mixedScript.path (returned mixedText) "res://Item.gd" = .ok mixedScript.retold ∧
    Scene.build [] mixedScene.path (returned mixedText) = .ok mixedScene.retold ∧
    mixedScript.retold.verdict false = [.untyped, .noClassName] ∧
    mixedScript.retold.verdict true = [.untyped] ∧
    mixedScene.retold.verdict ["Node2D"] true = [.masterType ["Node2D"]] := by
  have hfree : '\r' ∉ mixedText.toList := by decide
  have hscript : Script.build mixedScript.path mixedText "res://Item.gd" = .ok mixedScript := rfl
  have hscene : Scene.build [] mixedScene.path mixedText = .ok mixedScene := rfl
  obtain ⟨hbuild, hbuild', hverdict, hverdict'⟩ :=
    line_endings_immaterial hfree mixedScript.path "res://Item.gd" []
  rw [hscript] at hbuild
  refine ⟨hfree, by decide, hbuild, ?_, ?_, ?_, ?_⟩
  · exact hbuild'.trans (congrArg (Except.map Scene.retold) hscene)
  · exact (hverdict _ hscript false).trans (by decide)
  · exact (hverdict _ hscript true).trans (by decide)
  · exact (hverdict' _ hscene ["Node2D"] true).trans (by decide)

end SceneLint
