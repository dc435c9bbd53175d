import SceneLint.Settings.EnvironmentFile
import SceneLint.Settings.Validate

/-!
# Sources of settings

Values for the fields come from entries (of files and of the command line), from the environment,
and from the environment file of the working directory, in this order of precedence. Names count
in any case; among entries, the name of the field itself counts before it in another case. In the
environment the names have a fixed start, and a list has to be written as JSON. `load` merges the
sources and checks the outcome.
-/

namespace SceneLint.Settings

/-- An `Entry` is a value given under a name. -/
abbrev Entry := String × Given

/-- `lastNamed? name entries` is the last value given under a name in any case. -/
def lastNamed? {α : Type} (name : String) (entries : List (String × α)) : Option α :=
  (entries.reverse.find? fun entry => Text.lower entry.1 == name).map (·.2)

/-- `named? name entries` is the last value given under just this name, or else the last one under
the name in another case. -/
def named? {α : Type} (name : String) (entries : List (String × α)) : Option α :=
  lastField? name entries <|> lastNamed? name entries

/-- `variableName setting` is the name of a field in the environment, in lower case. -/
def variableName (setting : Setting) : String :=
  "godotcheck_" ++ setting.key

/-- `readVariable host origin setting text` is the value that a variable gives to a field: a list is
read as JSON, and a null gives nothing. -/
def readVariable (host : Host) (origin : SettingsOrigin) (setting : Setting) (text : String) :
    Except Failure (Option Given) :=
  if setting.isList then
    match Json.parseUpTo LongNumeral.digitLimit host.depths.read text with
    | .error e =>
        if e.fault = .tooDeep then .error (.tooDeep host.tooDeep)
        else .error (.unreadableSetting setting origin)
    | .ok .null => .ok none
    | .ok v => .ok (some (.data (.ofJson v)))
  else .ok (some (.data (.text text)))

/-- `gather host origin assigned settings` is the values that variables give to fields, one by
one. -/
def gather (host : Host) (origin : SettingsOrigin) (assigned : List (String × Option String)) :
    List Setting → Except Failure (List (Setting × Given))
  | [] => .ok []
  | setting :: settings => do
      let value ← match (lastNamed? (variableName setting) assigned).join with
        | some text => readVariable host origin setting text
        | none => .ok none
      let others ← gather host origin assigned settings
      return match value with
        | some g => (setting, g) :: others
        | none => others

/-- `environmentVariables w` is the variables of the environment. -/
def environmentVariables (w : World) : List (String × Option String) :=
  w.environment.map fun entry => (entry.1, some entry.2)

/-- `environmentFile` is the file beside the environment. -/
def environmentFile : FilePath := ⟨.relative, [".env"]⟩

/-- `fileVariables w` is the variables of the environment file, if there is one. -/
def fileVariables (w : World) : Except Failure (List (String × Option String)) :=
  match w.hasFile environmentFile with
  | .error e => .error (.system e)
  | .ok false => .ok []
  | .ok true =>
      match w.content Text.Utf8.decode environmentFile with
      | .error e => .error (.ofRead e)
      | .ok cs =>
          .ok (collectFields
            (EnvironmentFile.resolve w.environment (EnvironmentFile.assignments cs)))

/-- `firstGiven entries environment file setting` is the value that counts for a field. -/
def firstGiven (entries : List Entry) (environment file : List (Setting × Given))
    (setting : Setting) : Option Given :=
  named? setting.key entries <|> environment.lookup setting <|> file.lookup setting

/-- `load w entries` is the settings that entries make together with the environment. -/
def load (w : World) (entries : List Entry) : Except Failure Settings := do
  let assigned ← fileVariables w
  let environment ← gather w.host .environment (environmentVariables w) Setting.all
  let file ← gather w.host .environmentFile assigned Setting.all
  validate w (firstGiven entries environment file)

end SceneLint.Settings
