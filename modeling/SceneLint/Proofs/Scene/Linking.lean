import Mathlib.Data.List.Basic
import SceneLint.Proofs.Scene.Scan
import SceneLint.Scene.Rule

/-!
# Linking scenes to scripts

A scene is built from its own text and linked afterwards: `build_eq_map_link`. Of the scripts a
scene sees only their resource paths and kinds, `Script.seen`. Scripts of which a scene sees the
same are linked to it alike (`linked?_seen_congr`) and make it break the same rules
(`problems_link_congr`).
-/

namespace SceneLint

/-- `Script.seen s` is what scenes see of a script: its resource path and its kind. -/
def Script.seen (s : Script) : String × ScriptKind :=
  (s.resource, s.kind)

namespace Scene

/-- `resource? scene` is the script resource that a scene names first. -/
def resource? (scene : Scene) : Option String :=
  match scriptResource (Text.lines scene.contents.toList) with
  | .ok resource => resource
  | .error _ => none

/-- `link scripts scene` is a scene, linked to one of the scripts. -/
def link (scripts : List Script) (scene : Scene) : Scene :=
  { scene with script := linked? scripts scene.resource? }

@[simp] theorem path_link (scripts : List Script) (scene : Scene) :
    (scene.link scripts).path = scene.path := rfl

variable {scripts scripts' : List Script} {scene : Scene}

/-- A scene names a resource when its lines do. -/
theorem resource?_eq_some_iff {path : String} : scene.resource? = some path ↔
    ResourceOf (Text.lines scene.contents.toList) (some path) := by
  rw [← script_resource_eq_ok_iff]
  unfold resource?
  cases scriptResource (Text.lines scene.contents.toList) <;> simp

/-- A scene is built without any script and linked afterwards. -/
theorem build_eq_map_link (scripts : List Script) (path : FilePath) (contents : String) :
    build scripts path contents = (build [] path contents).map (link scripts) := by
  simp only [build, bind, Except.bind]
  cases hresource : scriptResource (Text.lines contents.toList) with
  | error fault => rfl
  | ok resource =>
      cases hmaster : master (Text.lines contents.toList) with
      | error fault => rfl
      | ok pair =>
          obtain ⟨type, hasChildren⟩ := pair
          simp [Except.map, link, resource?, hresource, pure, Except.pure]

/-- Lists of scripts of which scenes see the same link a resource path to scripts of which they see
the same. -/
theorem linked?_seen_congr (h : scripts'.map Script.seen = scripts.map Script.seen)
    (resource : Option String) :
    (linked? scripts' resource).map Script.seen = (linked? scripts resource).map Script.seen := by
  cases resource with
  | none => rfl
  | some path =>
      have hseen : ∀ list : List Script,
          (list.find? fun s => s.resource == path).map Script.seen =
            (list.map Script.seen).find? fun seen => seen.1 == path := by
        intro list
        rw [List.find?_map]
        rfl
      rw [linked?_eq, linked?_eq, Option.bind_some, Option.bind_some, hseen, hseen, h]

/-- Scenes with the same nodes, linked to scripts of which they see the same, break the same
rules. -/
theorem breach?_congr {other : Scene} (htype : other.masterType = scene.masterType)
    (hchildren : other.hasChildren = scene.hasChildren)
    (hscript : other.script.map Script.seen = scene.script.map Script.seen)
    (allowed : List String) (rule : SceneRule) :
    rule.breach? allowed other = rule.breach? allowed scene := by
  unfold SceneRule.breach?
  rw [htype, hchildren]
  cases hlinked : scene.script with
  | none =>
      rw [hlinked, Option.map_none, Option.map_eq_none_iff] at hscript
      rw [hscript]
  | some script =>
      rw [hlinked, Option.map_some, Option.map_eq_some_iff] at hscript
      obtain ⟨script', hlinked', hseen⟩ := hscript
      have hkind : script'.kind = script.kind := (Prod.mk.inj hseen).2
      simp only [hlinked', hkind, Option.isSome_some]

/-- The problems of a scene depend on no more than what it sees of the scripts. -/
theorem problems_link_congr (h : scripts'.map Script.seen = scripts.map Script.seen)
    (allowed : List String) (failFast : Bool) :
    (scene.link scripts').problems allowed failFast =
      (scene.link scripts).problems allowed failFast := by
  have hbreaches :
      (scene.link scripts').breaches allowed = (scene.link scripts).breaches allowed := by
    apply List.filterMap_congr
    intro rule _
    apply breach?_congr
    · rfl
    · rfl
    · exact linked?_seen_congr h scene.resource?
  unfold problems verdict
  rw [hbreaches]
  rfl

end Scene

end SceneLint
