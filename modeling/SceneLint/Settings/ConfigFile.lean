import SceneLint.Failure
import SceneLint.Text.Case
import SceneLint.Toml.Document
import SceneLint.Yaml.Document

/-!
# Configuration files

`ConfigFile.read` reads a mapping from a file in one of three formats, chosen by its suffix. An
empty YAML document is an empty mapping. Some keys that users write by mistake are told apart, with
the key that was meant.
-/

namespace SceneLint.ConfigFile

/-- `suffixes` is the suffixes of configuration files. -/
def suffixes : List String := [".yml", ".yaml", ".toml", ".json"]

/-- A `Format` is a format of configuration files. -/
inductive Format where
  | yaml
  | toml
  | json
deriving DecidableEq

/-- `format? suffix` is the format that a suffix stands for. -/
def format? (suffix : String) : Option Format :=
  if suffix = ".yml" || suffix = ".yaml" then some .yaml
  else if suffix = ".toml" then some .toml
  else if suffix = ".json" then some .json
  else none

/-- `mistakenKeys` is keys that are written by mistake, each with the one that is meant. -/
def mistakenKeys : List (String × String) :=
  [("root", "project_root"), ("exclude", "skip_dirs"), ("skip_directories", "skip_dirs")]

/-- `hasKey key keys` says that a text is among the keys. -/
def hasKey (key : String) (keys : List Data) : Bool :=
  keys.any (Data.sameKey (.text key))

/-- `mistake keys wrong meant` tells a user of a mistaken key. -/
def mistake (keys : List Data) (wrong meant : String) : Diagnostic :=
  ⟨.configuration, "Invalid configuration key '" ++ wrong ++ "'",
    some ("Use '" ++ meant ++ "' instead of '" ++ wrong ++ "'"),
    some [("found_keys", .list keys), ("invalid_key", .text wrong), ("correct_key", .text meant)]⟩

/-- `checkKeys keys` fails at the first mistaken key. -/
def checkKeys (keys : List Data) : Except Failure Unit :=
  match mistakenKeys.find? fun entry => hasKey entry.1 keys with
  | some (wrong, meant) => .error (.diagnostic (mistake keys wrong meant))
  | none => .ok ()

/-- `unsupported path suffix` tells a user of a format that is not known. -/
def unsupported (path : FilePath) (suffix : String) : Diagnostic :=
  ⟨.configuration, "Unsupported configuration file format: " ++ suffix,
    some "Use one of the supported formats: .yml, .yaml, .toml, or .json",
    some [("file", .text path.text), ("detected_format", .text suffix),
      ("supported_formats", .ofTexts suffixes)]⟩

/-- `notMapping path d` tells a user of a file that holds no mapping. -/
def notMapping (path : FilePath) (d : Data) : Diagnostic :=
  ⟨.configuration, "Configuration file must contain a mapping: " ++ path.text, none,
    some [("found_type", .text d.typeName)]⟩

/-- `missing path` is the failure to find a file. -/
def missing (path : FilePath) : Failure :=
  .missingFile ("Configuration file not found: " ++ path.text)

/-- `readYaml w path` is the value of a YAML file. -/
def readYaml (w : World) (path : FilePath) : Except Failure Data :=
  match w.content Text.Utf8.decodeChunked path with
  | .error e => .error (.ofRead e)
  | .ok cs =>
      match Yaml.parse w.host.order cs with
      | .error fault =>
          .error (.malformedYaml fault (w.host.malformed path.text (String.ofList cs)))
      | .ok d => .ok (if d.isFalsy then .map [] else d)

/-- `readToml w path` is the value of a TOML file. -/
def readToml (w : World) (path : FilePath) : Except Failure Data :=
  match w.octets path with
  | .error e => .error (.system e)
  | .ok octets =>
      match Text.Utf8.decode octets with
      | .error e => .error (.malformedText e)
      | .ok cs =>
          match Toml.parse cs with
          | .error fault =>
              .error (.ofToml (w.host.malformed path.text (String.ofList cs)) fault)
          | .ok d => .ok d

/-- `readJson w path` is the value of a JSON file. -/
def readJson (w : World) (path : FilePath) : Except Failure Data :=
  match w.content Text.Utf8.decode path with
  | .error e => .error (.ofRead e)
  | .ok cs =>
      match Json.parseUpTo LongNumeral.digitLimit w.host.depths.read (String.ofList cs) with
      | .error e => .error (.ofJson w.host e)
      | .ok v => .ok (.ofJson v)

/-- `readFormat w path format` is the value of a file in a format. -/
def readFormat (w : World) (path : FilePath) : Format → Except Failure Data
  | .yaml => readYaml w path
  | .toml => readToml w path
  | .json => readJson w path

/-- `read w path` is the mapping in a configuration file. -/
def read (w : World) (path : FilePath) : Except Failure (List (Data × Data)) := do
  if !(← Failure.answered (w.has path)) then throw (missing path)
  let suffix := Text.lower path.suffix
  let d ← match format? suffix with
    | some format => readFormat w path format
    | none => throw (.diagnostic (unsupported path suffix))
  match d with
  | .map entries =>
      checkKeys (entries.map (·.1))
      return entries
  | d => throw (.diagnostic (notMapping path d))

end SceneLint.ConfigFile
