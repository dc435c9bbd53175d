import SceneLint.Failure
import SceneLint.Text.Case
import SceneLint.Text.Utf8

/-!
# Checking the values of settings

`Settings.validate` turns given values into settings. Each field first puts its value into a
normal form (paths are expanded and resolved, extensions lose their point, lists may be written
with commas, levels and formats have one case) and then checks it. All fields at fault are told
at once, in the order of the fields; a path that leads nowhere because of a home directory or a
loop of links stops everything.
-/

namespace SceneLint

/-- A `Given` is a value given for a field: data, or a path that was already read. -/
inductive Given where
  | data (d : Data)
  | path (p : FilePath)

/-- `Given.toData g` is a given value as data. -/
def Given.toData : Given → Data
  | .data d => d
  | .path p => .text p.text

/-- `Checked α` is the outcome of checking a value. -/
inductive Checked (α : Type) where
  | ok (a : α)
  | invalid (errors : List FieldError)
  | broken (fault : PathFault)

namespace Checked

/-- `both f x` checks two things: the first broken one counts, or all errors of both. -/
def both {α β : Type} (f : Checked (α → β)) (x : Checked α) : Checked β :=
  match f, x with
  | .broken fault, _ => .broken fault
  | _, .broken fault => .broken fault
  | .invalid errors, .invalid others => .invalid (errors ++ others)
  | .invalid errors, .ok _ => .invalid errors
  | .ok _, .invalid errors => .invalid errors
  | .ok f, .ok a => .ok (f a)

/-- `single setting fault input` is one error of a field. -/
def single {α : Type} (setting : Setting) (fault : FieldFault) (input : Data) : Checked α :=
  .invalid [⟨setting, none, fault, input⟩]

/-- `result c` is the value checked, or the failure. -/
def result {α : Type} : Checked α → Except Failure α
  | .ok a => .ok a
  | .invalid errors => .error (.invalid errors)
  | .broken fault => .error (.path fault)

end Checked

namespace Settings

/-- `textOf? octets` is the text that octets are in UTF-8. -/
def textOf? (octets : List UInt8) : Option String :=
  match Text.Utf8.decode octets with
  | .ok cs => some (String.ofList cs)
  | .error _ => none

/-- `checkString setting index d` takes a text, or octets that are one; `index` is the place in a
list. -/
def checkString (setting : Setting) (index : Option Nat) : Data → Checked String
  | .text s => .ok s
  | .bytes octets =>
      match textOf? octets with
      | some s => .ok s
      | none => .invalid [⟨setting, index, .notUnicode, .bytes octets⟩]
  | d => .invalid [⟨setting, index, .notText, d⟩]

/-- `checkText setting d` takes a text as the value of a field. -/
def checkText (setting : Setting) (d : Data) : Checked String :=
  checkString setting none d

/-- `expandText w s` is the path that a text means. -/
def expandText (w : World) (s : String) : Except PathFault FilePath :=
  w.expand (FilePath.ofString (w.expandVariables s))

/-- `checkExpanded setting input expanded` takes a path that could be expanded. -/
def checkExpanded (setting : Setting) (input : Data) :
    Except PathFault FilePath → Checked (Option FilePath)
  | .ok p => .ok (some p)
  | .error .nulByte => .single setting (.refused PathFault.nulByte.message) input
  | .error fault => .broken fault

/-- `checkPath w setting g` takes a path, a text that means one, or nothing. -/
def checkPath (w : World) (setting : Setting) : Given → Checked (Option FilePath)
  | .path p => checkExpanded setting (.text p.text) (w.expand p)
  | .data .null => .ok none
  | .data (.text s) => checkExpanded setting (.text s) (expandText w s)
  | .data d =>
      .single setting
        (.refused ("Path fields must be str or Path, got " ++ d.typeName ++ ": " ++ d.literal)) d

/-- `checkRoot w g` takes the path of the project. -/
def checkRoot (w : World) (g : Given) : Checked FilePath :=
  match checkPath w .projectRoot g with
  | .ok (some p) => .ok p
  | .ok none => .single .projectRoot .notPath .null
  | .invalid errors => .invalid errors
  | .broken fault => .broken fault

/-- `bareExtension s` is an extension without blanks around it and points before it. -/
def bareExtension (s : String) : String :=
  String.ofList ((Text.trim s.toList).dropWhile (· == '.'))

/-- `bareText d` is a text as an extension, and any other value as it is. -/
def bareText : Data → Data
  | .text s => .text (bareExtension s)
  | d => d

/-- `checkExtension setting g` takes an extension; a text may have its point. -/
def checkExtension (setting : Setting) (g : Given) : Checked String :=
  let bare := bareText g.toData
  match checkText setting bare with
  | .ok s => if s = "" then .single setting .empty bare else .ok s
  | .invalid errors => .invalid errors
  | .broken fault => .broken fault

/-- `commaList s` is the items between commas, trimmed, without empty ones. -/
def commaList (s : String) : List String :=
  ((Text.splitText ',' s).map Text.trimmed).filter (· != "")

/-- `checkItems setting index items` takes texts only; each item that is none is an error. -/
def checkItems (setting : Setting) : Nat → List Data → Checked (List String)
  | _, [] => .ok []
  | index, item :: items =>
      ((Checked.ok List.cons).both (checkString setting (some index) item)).both
        (checkItems setting (index + 1) items)

/-- `checkList setting g` takes a list, pair or set of texts, or a text with commas. -/
def checkList (setting : Setting) (g : Given) : Checked (List String) :=
  match g.toData with
  | .text s => .ok (commaList s)
  | .list items => checkItems setting 0 items
  | .pair first second => checkItems setting 0 [first, second]
  | .set members => checkItems setting 0 members
  | d => .single setting .notList d

/-- `readBool? s` is the truth value that a word means. -/
def readBool? (s : String) : Option Bool :=
  let word := String.ofList (s.toList.map Char.toLower)
  if ["1", "on", "t", "true", "y", "yes"].contains word then some true
  else if ["0", "off", "f", "false", "n", "no"].contains word then some false
  else none

/-- `boolOfInt? n` is the truth value that a number means. -/
def boolOfInt? (n : Int) : Option Bool :=
  if n = 1 then some true else if n = 0 then some false else none

/-- `wordBound` is the least number that is too large for a signed word of 64 bits. -/
def wordBound : Int := 9223372036854775808

/-- `checkBool setting g` takes a truth value, a word or number for one. -/
def checkBool (setting : Setting) (g : Given) : Checked Bool :=
  let clear : Option Bool → Checked Bool := fun b? =>
    match b? with
    | some b => .ok b
    | none => .single setting .unclearBool g.toData
  match g.toData with
  | .bool b => .ok b
  | .text s => clear (readBool? s)
  | .bytes octets => clear ((textOf? octets).bind readBool?)
  | .int n => clear (boolOfInt? n)
  | .float x =>
      match x.integer? with
      | some n =>
          if -wordBound < n ∧ n < wordBound then clear (boolOfInt? n)
          else .single setting .notBool g.toData
      | none => .single setting .notBool g.toData
  | d => .single setting .notBool d

/-- `levelPattern` is the pattern of log levels. -/
def levelPattern : String := "^(?i)(DEBUG|INFO|WARNING|ERROR|CRITICAL)$"

/-- `formatPattern` is the pattern of log formats. -/
def formatPattern : String := "^(?i)(console|json|structured)$"

/-- `levels` is the log levels that may be set. -/
def levels : List String := ["DEBUG", "INFO", "WARNING", "ERROR", "CRITICAL"]

/-- `formats` is the log formats that may be set. -/
def formats : List String := ["console", "json", "structured"]

/-- `plainLetter c` is a letter, or the plain s for a long one: the two are the same letter in
another case. -/
def plainLetter (c : Char) : Char :=
  if c.toNat = 0x17F then 's' else c

/-- `foldLongS s` writes every long s as a plain one. -/
def foldLongS (s : String) : String :=
  String.ofList (s.toList.map plainLetter)

/-- `notString setting d` is the reason for which a value that is no text is refused. -/
def notString (setting : Setting) (d : Data) : String :=
  setting.key ++ " must be a string, got " ++ d.typeName

/-- `checkLevel g` takes a log level in any case. -/
def checkLevel (g : Given) : Checked String :=
  match g.toData with
  | .text s =>
      let level := Text.upper s
      if levels.contains level then .ok level
      else .single .logLevel (.mismatch levelPattern) (.text level)
  | d => .single .logLevel (.refused (notString .logLevel d)) d

/-- `checkFormat g` takes a log format in any case. -/
def checkFormat (g : Given) : Checked String :=
  match g.toData with
  | .text s =>
      let format := Text.lower s
      if formats.contains (foldLongS format) then .ok format
      else .single .logFormat (.mismatch formatPattern) (.text format)
  | d => .single .logFormat (.refused (notString .logFormat d)) d

/-- `orDefault check value given` checks a given value; where none is given the value stands. -/
def orDefault {α : Type} (check : Given → Checked α) (value : α) : Option Given → Checked α
  | some g => check g
  | none => .ok value

/-- `check w given` checks the values given for the fields. -/
def check (w : World) (given : Setting → Option Given) : Checked Settings :=
  let base := Settings.default w.workingPath
  let text := fun (setting : Setting) (g : Given) => checkText setting g.toData
  (((((((((((Checked.ok Settings.mk).both
    (orDefault (checkRoot w) base.projectRoot (given .projectRoot))).both
    (orDefault (checkExtension .scriptExtension) base.scriptExtension
      (given .scriptExtension))).both
    (orDefault (checkExtension .sceneExtension) base.sceneExtension (given .sceneExtension))).both
    (orDefault (checkList .skipDirs) base.skipDirs (given .skipDirs))).both
    (orDefault (text .resourceStart) base.resourceStart (given .resourceStart))).both
    (orDefault (checkList .masterTypes) base.masterTypes (given .masterTypes))).both
    (orDefault (checkBool .failFast) base.failFast (given .failFast))).both
    (orDefault (checkBool .debug) base.debug (given .debug))).both
    (orDefault checkLevel base.logLevel (given .logLevel))).both
    (orDefault checkFormat base.logFormat (given .logFormat))).both
    (orDefault (checkPath w .logFile) base.logFile (given .logFile))

/-- `validate w given` is the settings that the given values make. -/
def validate (w : World) (given : Setting → Option Given) : Except Failure Settings :=
  (check w given).result

end Settings

end SceneLint
