import SceneLint.Settings.Validate

/-!
# Settings field by field

`checkField w f g?` is what a field makes of the value given for it, or of none. Settings are valid
exactly if every field is what it makes of its value (`check_eq_ok_iff`), so what is known of one
field is known without the others. Only the two path fields look at the world
(`check_given_congr`): they replace variables and a leading tilde, and follow links.
-/

namespace SceneLint

/-- `Setting.Value f` is the type of the values of a field. -/
abbrev Setting.Value : Setting → Type
  | .projectRoot => FilePath
  | .scriptExtension => String
  | .sceneExtension => String
  | .skipDirs => List String
  | .resourceStart => String
  | .masterTypes => List String
  | .failFast => Bool
  | .debug => Bool
  | .logLevel => String
  | .logFormat => String
  | .logFile => Option FilePath

/-- `Setting.isPath f` says that a field holds a path. -/
def Setting.isPath : Setting → Bool
  | .projectRoot => true
  | .logFile => true
  | _ => false

namespace Settings

/-- `get s f` is the value of a field. -/
def get (s : Settings) : (f : Setting) → f.Value
  | .projectRoot => s.projectRoot
  | .scriptExtension => s.scriptExtension
  | .sceneExtension => s.sceneExtension
  | .skipDirs => s.skipDirs
  | .resourceStart => s.resourceStart
  | .masterTypes => s.masterTypes
  | .failFast => s.failFast
  | .debug => s.debug
  | .logLevel => s.logLevel
  | .logFormat => s.logFormat
  | .logFile => s.logFile

/-- Settings are their fields. -/
theorem get_ext {s s' : Settings} (h : ∀ f, s.get f = s'.get f) : s = s' := by
  cases s
  cases s'
  simp only [mk.injEq]
  exact ⟨h .projectRoot, h .scriptExtension, h .sceneExtension, h .skipDirs, h .resourceStart,
    h .masterTypes, h .failFast, h .debug, h .logLevel, h .logFormat, h .logFile⟩

/-- `checkGiven w f g` is what a field makes of a given value. -/
def checkGiven (w : World) : (f : Setting) → Given → Checked f.Value
  | .projectRoot => checkRoot w
  | .scriptExtension => checkExtension .scriptExtension
  | .sceneExtension => checkExtension .sceneExtension
  | .skipDirs => checkList .skipDirs
  | .resourceStart => fun g => checkText .resourceStart g.toData
  | .masterTypes => checkList .masterTypes
  | .failFast => checkBool .failFast
  | .debug => checkBool .debug
  | .logLevel => checkLevel
  | .logFormat => checkFormat
  | .logFile => checkPath w .logFile

/-- `checkField w f g?` is what a field makes of the value given for it; where none is given, the
default stands. -/
def checkField (w : World) (f : Setting) (g? : Option Given) : Checked f.Value :=
  orDefault (checkGiven w f) ((default w.workingPath).get f) g?

/-- Two things are checked if each of them is. -/
theorem both_eq_ok_iff {α β : Type} {f : Checked (α → β)} {x : Checked α} {b : β} :
    f.both x = .ok b ↔ ∃ g a, f = .ok g ∧ x = .ok a ∧ g a = b := by
  cases f <;> cases x <;> simp [Checked.both]

/-- The fields are checked one after the other. -/
theorem check_eq (w : World) (given : Setting → Option Given) :
    check w given = (((((((((((Checked.ok mk).both
      (checkField w .projectRoot (given .projectRoot))).both
      (checkField w .scriptExtension (given .scriptExtension))).both
      (checkField w .sceneExtension (given .sceneExtension))).both
      (checkField w .skipDirs (given .skipDirs))).both
      (checkField w .resourceStart (given .resourceStart))).both
      (checkField w .masterTypes (given .masterTypes))).both
      (checkField w .failFast (given .failFast))).both
      (checkField w .debug (given .debug))).both
      (checkField w .logLevel (given .logLevel))).both
      (checkField w .logFormat (given .logFormat))).both
      (checkField w .logFile (given .logFile)) := rfl

/-- Settings are valid exactly if every field is what it makes of the value given for it. -/
theorem check_eq_ok_iff {w : World} {given : Setting → Option Given} {s : Settings} :
    check w given = .ok s ↔ ∀ f, checkField w f (given f) = .ok (s.get f) := by
  rw [check_eq]
  constructor
  · intro h
    simp only [both_eq_ok_iff] at h
    obtain ⟨_, _, ⟨_, _, ⟨_, _, ⟨_, _, ⟨_, _, ⟨_, _, ⟨_, _, ⟨_, _, ⟨_, _, ⟨_, _, ⟨_, _, hmk,
      hroot, rfl⟩, hscript, rfl⟩, hscene, rfl⟩, hskip, rfl⟩, hstart, rfl⟩, hmasters, rfl⟩,
      hfast, rfl⟩, hdebug, rfl⟩, hlevel, rfl⟩, hformat, rfl⟩, hfile, rfl⟩ := h
    cases hmk
    intro f
    cases f with
    | projectRoot => exact hroot
    | scriptExtension => exact hscript
    | sceneExtension => exact hscene
    | skipDirs => exact hskip
    | resourceStart => exact hstart
    | masterTypes => exact hmasters
    | failFast => exact hfast
    | debug => exact hdebug
    | logLevel => exact hlevel
    | logFormat => exact hformat
    | logFile => exact hfile
  · intro h
    rw [h .projectRoot, h .scriptExtension, h .sceneExtension, h .skipDirs, h .resourceStart,
      h .masterTypes, h .failFast, h .debug, h .logLevel, h .logFormat, h .logFile]
    rfl

/-- The same of what is told to a user. -/
theorem validate_eq_ok_iff {w : World} {given : Setting → Option Given} {s : Settings} :
    validate w given = .ok s ↔ ∀ f, checkField w f (given f) = .ok (s.get f) := by
  rw [← check_eq_ok_iff, validate]
  cases check w given <;> simp [Checked.result]

/-- `expandGiven w g` is where a given path leads; other values lead nowhere. -/
def expandGiven (w : World) : Given → Option (Except PathFault FilePath)
  | .path p => some (w.expand p)
  | .data (.text s) => some (expandText w s)
  | .data _ => none

/-- A path is checked alike where it leads alike. -/
theorem check_path_congr {w w' : World} (setting : Setting) {g : Given}
    (h : expandGiven w' g = expandGiven w g) : checkPath w' setting g = checkPath w setting g := by
  cases g with
  | path p =>
      have hexpand : w'.expand p = w.expand p := Option.some.inj h
      rw [checkPath, checkPath, hexpand]
  | data d =>
      cases d with
      | text s =>
          have hexpand : expandText w' s = expandText w s := Option.some.inj h
          rw [checkPath, checkPath, hexpand]
      | _ => rfl

/-- A value is checked alike in two worlds, unless it is a path that leads elsewhere. -/
theorem check_given_congr {w w' : World} {f : Setting} {g : Given}
    (h : f.isPath = true → expandGiven w' g = expandGiven w g) :
    checkGiven w' f g = checkGiven w f g := by
  cases f with
  | projectRoot =>
      show checkRoot w' g = checkRoot w g
      rw [checkRoot, checkRoot, check_path_congr .projectRoot (h rfl)]
  | logFile => exact check_path_congr .logFile (h rfl)
  | _ => rfl

end Settings

end SceneLint
