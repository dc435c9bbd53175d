import SceneLint.Proofs.Settings.Sources
import SceneLint.Proofs.World.Ways

/-!
# Which source counts

`settings_precedence` says which of its sources a field follows. Loaded settings follow, field by
field, the first value that overrides, files, environment and environment file give. So two runs
agree on a field if the first source that gives it a value gives it the same value in both, whatever
the sources behind it say; for a path, if that value leads to the same place, too. Files that do not
exist have no influence. A command that names a file depends on no other one, and a command that
names none follows the standard files, the later before the earlier.

The name of a field may be written in any case. Overrides and files are asked for the name itself if
one of them uses it, and else for another spelling that is used (`CountsAs`). What a path means
depends on the environment, so a value that does not count can still be seen through a path that
names its variable, and a key in capitals counts as well (`hidden_value_seen`).
-/

namespace SceneLint.Settings

variable {w w' : World} {paths paths' : List FilePath} {overrides overrides' : List Entry}
  {s s' : Settings}

/-! ## Fields -/

/-- `CountsAs w paths overrides f k` says that entries are asked for the field `f` under the name
`k`: it is the name of the field itself and used, or no other spelling of it is used. -/
def CountsAs (w : World) (paths : List FilePath) (overrides : List Entry) (f : Setting)
    (k : String) : Prop :=
  Text.lower k = f.key ∧
    (k = f.key ∧ IsNamed w paths overrides k ∨
      ∀ k', Text.lower k' = f.key → k' ≠ k → ¬ IsNamed w paths overrides k')

/-- `LeadsAlike w w' f g` says that a value means the same for a field in two worlds: the value of a
path leads to the same place. -/
def LeadsAlike (w w' : World) (f : Setting) (g : Given) : Prop :=
  f.isPath = true → expandGiven w' g = expandGiven w g

/-- Under a name that entries do not give, the first value is that of a variable. -/
theorem first_source_of_not_named {k : String} (h : ¬ IsNamed w paths overrides k) (f : Setting) :
    (sources w paths overrides f k).findSome? id =
      (inEnvironment? w f <|> inEnvironmentFile? w f) := by
  rw [IsNamed, not_or, Option.not_isSome_iff_eq_none, Option.not_isSome_iff_eq_none] at h
  rw [first_source, h.1, h.2]
  simp

/-- A field that no entry names keeps the value of the environment. -/
theorem from_files_environment (h : fromFiles w paths overrides = .ok s) {f : Setting} {g : Given}
    (habsent : ∀ k, Text.lower k = f.key → ¬ IsNamed w paths overrides k)
    (hvalue : inEnvironment? w f = some g) : checkField w f (some g) = .ok (s.get f) := by
  obtain ⟨k, hk, hfield, -⟩ := from_files_field h f
  rwa [first_source_of_not_named (habsent k hk), hvalue] at hfield

/-- A field is what it makes of the first value under the name that counts. -/
theorem from_files_counting (h : fromFiles w paths overrides = .ok s) {f : Setting} {k : String}
    (hk : CountsAs w paths overrides f k) :
    checkField w f ((sources w paths overrides f k).findSome? id) = .ok (s.get f) := by
  obtain ⟨k', hk', hfield, habsent, hown⟩ := from_files_field h f
  obtain ⟨hlower, ⟨rfl, hnamed⟩ | honly⟩ := hk
  · rwa [hown hnamed] at hfield
  · by_cases heq : k' = k
    · rwa [heq] at hfield
    · have hother : ¬ IsNamed w paths overrides k' := honly k' hk' heq
      rwa [first_source_of_not_named hother,
        ← first_source_of_not_named (habsent hother k hlower)] at hfield

/-- Runs agree on a field if the first values given for it are the same; for a path, if that value
leads to the same place, and for a default, if the working directory is the same. -/
theorem get_eq_of_first (h : fromFiles w paths overrides = .ok s)
    (h' : fromFiles w' paths' overrides' = .ok s') {f : Setting} {k : String}
    (hk : CountsAs w paths overrides f k) (hk' : CountsAs w' paths' overrides' f k)
    {g? : Option Given} (hfirst : (sources w paths overrides f k).findSome? id = g?)
    (hfirst' : (sources w' paths' overrides' f k).findSome? id = g?)
    (hpath : ∀ g, g? = some g → LeadsAlike w w' f g)
    (hworking : g? = none → w'.working = w.working) : s'.get f = s.get f := by
  have hcheck : checkField w' f g? = checkField w f g? := by
    cases g? with
    | none => simp only [checkField, orDefault, World.workingPath, hworking rfl]
    | some g => exact check_given_congr (hpath g rfl)
  have hfield := from_files_counting h hk
  have hfield' := from_files_counting h' hk'
  rw [hfirst] at hfield
  rw [hfirst', hcheck, hfield] at hfield'
  exact (Checked.ok.inj hfield').symm

/-- The first value is that of the first source that gives one. -/
theorem find_first_source (n : Nat) (g : Given) (below : List (Option Given)) :
    (List.replicate n none ++ some g :: below).findSome? id = some g := by
  rw [List.findSome?_append, List.findSome?_eq_none_iff.2 (by simp)]
  rfl

/-- Runs agree on a field if the first source that gives it a value gives it the same value in both,
whatever the sources behind it give. -/
theorem get_eq_of_source (h : fromFiles w paths overrides = .ok s)
    (h' : fromFiles w' paths' overrides' = .ok s') {f : Setting} {k : String}
    (hk : CountsAs w paths overrides f k) (hk' : CountsAs w' paths' overrides' f k) {n : Nat}
    {g : Given} {below below' : List (Option Given)}
    (hsources : sources w paths overrides f k = List.replicate n none ++ some g :: below)
    (hsources' : sources w' paths' overrides' f k = List.replicate n none ++ some g :: below')
    (hpath : LeadsAlike w w' f g) : s'.get f = s.get f := by
  have hfirst := (congrArg _ hsources).trans (find_first_source n g below)
  have hfirst' := (congrArg _ hsources').trans (find_first_source n g below')
  refine get_eq_of_first h h' hk hk' hfirst hfirst' ?_ nofun
  rintro _ ⟨⟩
  exact hpath

/-- Runs in one working directory agree if the first values given for each field are the same. -/
theorem eq_of_first (h : fromFiles w paths overrides = .ok s)
    (h' : fromFiles w' paths' overrides' = .ok s') (hworking : w'.working = w.working)
    (hfields : ∀ f : Setting, ∃ (k : String) (g? : Option Given),
      CountsAs w paths overrides f k ∧ CountsAs w' paths' overrides' f k ∧
      (sources w paths overrides f k).findSome? id = g? ∧
      (sources w' paths' overrides' f k).findSome? id = g? ∧
      ∀ g, g? = some g → LeadsAlike w w' f g) : s' = s := by
  refine get_ext fun f => ?_
  obtain ⟨k, g?, hk, hk', hfirst, hfirst', hpath⟩ := hfields f
  exact get_eq_of_first h h' hk hk' hfirst hfirst' hpath fun _ => hworking

/-- A given path without a dollar sign leads to the same place from one home directory. -/
theorem expand_given_of_plain (hreal : w.SameReal w') (hhome : w'.home? = w.home?) {g : Given}
    (hplain : ∀ text, g = .data (.text text) → '$' ∉ text.toList) :
    expandGiven w' g = expandGiven w g := by
  cases g with
  | path p => exact congrArg some (hreal.expand_eq hhome p)
  | data d =>
      cases d with
      | text text =>
          have hdollar := hplain text rfl
          simp only [expandGiven, expandText, World.expand_variables_of_not_mem hdollar,
            hreal.expand_eq hhome]
      | _ => rfl

/-! ## Files -/

/-- Files that do not exist have no influence. -/
theorem from_files_filter_absent (w : World) (paths : List FilePath) (overrides : List Entry) :
    fromFiles w (paths.filter fun path => !isAbsent w path) overrides =
      fromFiles w paths overrides := by
  rw [fromFiles, fromFiles, read_all_filter_absent]

/-- The system tells the same of a path in two worlds if it leads alike and what is denied is the
same. -/
theorem stat_congr (hdenied : w'.denied = w.denied) {path : FilePath}
    (h : w'.find path = w.find path) : w'.stat path = w.stat path := by
  simp only [World.stat, World.asked, hdenied, h]

/-- A file is read alike on one host where its path leads alike. -/
theorem read_congr (hhost : w'.host = w.host) (hdenied : w'.denied = w.denied) {path : FilePath}
    (h : w'.find path = w.find path) : ConfigFile.read w' path = ConfigFile.read w path := by
  have hformat : ∀ format, ConfigFile.readFormat w' path format =
      ConfigFile.readFormat w path format := by
    intro format
    cases format <;>
      simp only [ConfigFile.readFormat, ConfigFile.readYaml, ConfigFile.readToml,
        ConfigFile.readJson, World.content, World.octets, hdenied, hhost, h]
  rw [ConfigFile.read, ConfigFile.read, World.has, World.has, stat_congr hdenied h]
  simp only [hformat]

/-- Values are checked alike on one host and in one environment, if paths have the same real
paths. -/
theorem validate_congr (hreal : w.SameReal w') (hhost : w'.host = w.host)
    (henvironment : w'.environment = w.environment) (given : Setting → Option Given) :
    validate w' given = validate w given := by
  have hhome : w'.home? = w.home? := by
    funext user
    simp only [World.home?, World.variableValue?, henvironment, hhost]
  have hexpand : ∀ g, expandGiven w' g = expandGiven w g := by
    intro g
    cases g with
    | path p => exact congrArg some (hreal.expand_eq hhome p)
    | data d =>
        cases d with
        | text text =>
            simp only [expandGiven, expandText, World.expand_variables_congr henvironment,
              hreal.expand_eq hhome]
        | _ => rfl
  have hfield : ∀ f g?, checkField w' f g? = checkField w f g? := by
    intro f g?
    cases g? with
    | none => simp only [checkField, orDefault, World.workingPath, hreal.working]
    | some g => exact check_given_congr fun _ => hexpand g
  rw [validate, validate, check_eq, check_eq]
  simp only [hfield]

/-- The settings of a command that names a file depend on that file, the environment, the
environment file, the host and the real paths, and on no other file. -/
theorem for_command_file_congr (hreal : w.SameReal w') (hhost : w'.host = w.host)
    (henvironment : w'.environment = w.environment) (hdenied : w'.denied = w.denied)
    {path : FilePath} (hpath : w'.find path = w.find path)
    (hfile : w'.find environmentFile = w.find environmentFile) (overrides : List Entry) :
    forCommand w' (some path) overrides = forCommand w (some path) overrides := by
  have hvariables : fileVariables w' = fileVariables w := by
    simp only [fileVariables, World.hasFile, World.content, World.octets, stat_congr hdenied hfile,
      hdenied, hfile, henvironment]
  have hload : ∀ entries, load w' entries = load w entries := by
    intro entries
    simp only [load, hvariables, environmentVariables, henvironment, hhost,
      validate_congr hreal hhost henvironment]
  have hread : readAll w' [path] = readAll w [path] := by
    simp only [readAll, read_congr hhost hdenied hpath]
  have hhas : w'.has path = w.has path := by
    rw [World.has, World.has, stat_congr hdenied hpath]
  simp only [forCommand, hhas, fromFiles, hread, hload]

/-- `standardOrder home here` is the standard files in their order: those of the home directory,
those of the directory `.godotcheck`, and those of the working directory. -/
def standardOrder (home here : FilePath) : List FilePath :=
  [ below home [".config", "godotcheck", "config.yaml"],
    below home [".config", "godotcheck", "config.json"],
    below home [".config", "godotcheck", "config.toml"],
    below here [".godotcheck", "config.yaml"], below here [".godotcheck", "config.json"],
    below here [".godotcheck", "config.toml"],
    below here ["godotcheck.yaml"], below here ["godotcheck.json"], below here ["godotcheck.toml"] ]

/-- A command that names no file follows the standard files that exist, in their order. -/
theorem for_command_standard {home : FilePath} (hhome : w.homePath = .ok home)
    (overrides : List Entry) :
    forCommand w none overrides =
      fromFiles w ((standardOrder home w.workingPath).filter (isFileSurely w)) overrides := by
  rw [forCommand, standardFiles, hhome]
  rfl

/-! ## The whole order -/

/-- Which source counts. Each field of loaded settings is what it makes of the first value that its
sources give, under the name that counts for it; there is a spelling that is used if any is, and the
name of the field itself is the one if it is used. A field that no entry names keeps the value of
the environment. Files that do not exist have no influence. Two runs agree on a field if the first
source that gives it a value gives it the same value in both, whatever the sources behind it give;
for a path, if that value leads to the same place, as it does from one home directory if it has no
dollar sign in it. They agree on all settings if this holds of each field that a source gives. A
command that names a file depends on no other configuration file, apart from real paths, which are
the same in worlds that differ in files alone; and one that names none follows the standard files in
their order. -/
theorem settings_precedence :
    (∀ (w : World) (paths : List FilePath) (overrides : List Entry) (s : Settings),
      fromFiles w paths overrides = .ok s → ∀ f : Setting,
        (∃ k, Text.lower k = f.key ∧
          checkField w f ((sources w paths overrides f k).findSome? id) = .ok (s.get f) ∧
          (¬ IsNamed w paths overrides k →
            ∀ k', Text.lower k' = f.key → ¬ IsNamed w paths overrides k') ∧
          (IsNamed w paths overrides f.key → k = f.key)) ∧
        (∀ k, CountsAs w paths overrides f k →
          checkField w f ((sources w paths overrides f k).findSome? id) = .ok (s.get f)) ∧
        (∀ g, (∀ k, Text.lower k = f.key → ¬ IsNamed w paths overrides k) →
          inEnvironment? w f = some g → checkField w f (some g) = .ok (s.get f))) ∧
    (∀ (w : World) (paths : List FilePath) (overrides : List Entry),
      fromFiles w (paths.filter fun path => !isAbsent w path) overrides =
        fromFiles w paths overrides) ∧
    (∀ (w w' : World) (paths paths' : List FilePath) (overrides overrides' : List Entry)
        (s s' : Settings),
      fromFiles w paths overrides = .ok s → fromFiles w' paths' overrides' = .ok s' →
      ∀ (f : Setting) (k : String), CountsAs w paths overrides f k →
        CountsAs w' paths' overrides' f k →
        ∀ (n : Nat) (g : Given) (below below' : List (Option Given)),
          sources w paths overrides f k = List.replicate n none ++ some g :: below →
          sources w' paths' overrides' f k = List.replicate n none ++ some g :: below' →
          LeadsAlike w w' f g → s'.get f = s.get f) ∧
    (∀ (w w' : World) (paths paths' : List FilePath) (overrides overrides' : List Entry)
        (s s' : Settings),
      fromFiles w paths overrides = .ok s → fromFiles w' paths' overrides' = .ok s' →
      w'.working = w.working →
      (∀ f : Setting, ∃ (k : String) (g? : Option Given), CountsAs w paths overrides f k ∧
        CountsAs w' paths' overrides' f k ∧
        (sources w paths overrides f k).findSome? id = g? ∧
        (sources w' paths' overrides' f k).findSome? id = g? ∧
        ∀ g, g? = some g → LeadsAlike w w' f g) → s' = s) ∧
    (∀ (w w' : World) (g : Given), w.SameReal w' → w'.home? = w.home? →
      (∀ text, g = .data (.text text) → '$' ∉ text.toList) → ∀ f, LeadsAlike w w' f g) ∧
    (∀ (w w' : World) (path : FilePath) (overrides : List Entry), w.SameReal w' →
      w'.host = w.host → w'.environment = w.environment → w'.denied = w.denied →
      w'.find path = w.find path → w'.find environmentFile = w.find environmentFile →
        forCommand w' (some path) overrides = forCommand w (some path) overrides) ∧
    (∀ w w' : World, w.SameWays w' → w.SameReal w') ∧
    (∀ (w : World) (home : FilePath) (overrides : List Entry), w.homePath = .ok home →
      forCommand w none overrides =
        fromFiles w ((standardOrder home w.workingPath).filter (isFileSurely w)) overrides) := by
  refine ⟨?_, from_files_filter_absent, ?_, ?_, ?_, ?_, fun _ _ hways => hways.same_real, ?_⟩
  · intro w paths overrides s h f
    exact ⟨from_files_field h f, fun k hk => from_files_counting h hk,
      fun g habsent hvalue => from_files_environment h habsent hvalue⟩
  · intro w w' paths paths' overrides overrides' s s' h h' f k hk hk' n g below below' hsources
      hsources' hpath
    exact get_eq_of_source h h' hk hk' hsources hsources' hpath
  · intro w w' paths paths' overrides overrides' s s' h h' hworking hfields
    exact eq_of_first h h' hworking hfields
  · intro w w' g hreal hhome hplain _ _
    exact expand_given_of_plain hreal hhome hplain
  · intro w w' path overrides hreal hhost henvironment hdenied hpath hfile
    exact for_command_file_congr hreal hhost henvironment hdenied hpath hfile overrides
  · intro w home overrides hhome
    exact for_command_standard hhome overrides

/-! ## Settings in layers -/

/-- `layeredWorld level debug` holds a file that sets an extension, and an environment that sets the
same extension, the log level and whether to debug. -/
def layeredWorld (level debug : String) : World :=
  ⟨.directory [("a.json", .file (Text.Utf8.encode "\x7b\"scene_extension\": \".x\"\x7d"))],
    [("HOME", "/"), ("GODOTCHECK_SCENE_EXTENSION", "y"), ("GODOTCHECK_LOG_LEVEL", level),
      ("GODOTCHECK_DEBUG", debug)], [], ⟨[], [], []⟩, .usual⟩

/-- `layered extension debug` is the settings with an extension, whether to debug, and the log level
of the override. -/
def layered (extension : String) (debug : Bool) : Settings :=
  { default ⟨.root, []⟩ with sceneExtension := extension, debug := debug, logLevel := "ERROR" }

/-- `layeredOverrides` sets the log level. -/
def layeredOverrides : List Entry :=
  [("log_level", .data (.text "error"))]

/-- The file sets the extension where it is named, and the environment does where it is not. -/
theorem from_files_layered :
    fromFiles (layeredWorld "debug" "yes") [.ofString "a.json"] layeredOverrides =
        .ok (layered "x" true) ∧
      fromFiles (layeredWorld "debug" "yes") [] layeredOverrides = .ok (layered "y" true) ∧
      fromFiles (layeredWorld "info" "no") [] layeredOverrides = .ok (layered "y" false) ∧
      ∃ s, fromFiles (layeredWorld "info" "yes") [] layeredOverrides = .ok s := by
  simp only [← to_option_eq_some_iff, ← Option.isSome_iff_exists]
  decide +kernel

/-- The override names no field in another way than its own. -/
theorem counts_as_layered (w : World) (f : Setting) :
    CountsAs w [] layeredOverrides f f.key := by
  refine ⟨lower_key f, .inr fun k hk hne => ?_⟩
  have hother : "log_level" ≠ k := by
    rintro rfl
    exact hne hk
  have hnone : override? layeredOverrides k = none := by
    simp [override?, lastField?, layeredOverrides, isGiven, hother]
  simp [IsNamed, hnone, inFiles?]

/-- `layeredFirst f` is the first value that the layers give to a field without the file. -/
def layeredFirst : Setting → Option Given
  | .sceneExtension => some (.data (.text "y"))
  | .debug => some (.data (.text "yes"))
  | .logLevel => some (.data (.text "error"))
  | _ => none

/-- The override hides the log level of the environment. -/
theorem first_source_layered {level : String} (h : level = "debug" ∨ level = "info")
    (f : Setting) :
    (sources (layeredWorld level "yes") [] layeredOverrides f f.key).findSome? id =
      layeredFirst f := by
  have hnone : ∀ f ∈ Setting.all, ∀ level ∈ ["debug", "info"], (layeredFirst f).isNone =
      ((sources (layeredWorld level "yes") [] layeredOverrides f f.key).findSome? id).isNone := by
    decide +kernel
  cases f with
  | sceneExtension => obtain rfl | rfl := h <;> rfl
  | debug => obtain rfl | rfl := h <;> rfl
  | logLevel => obtain rfl | rfl := h <;> rfl
  | _ => exact Option.isNone_iff_eq_none.1 (hnone _ (mem_all _) level (by simpa using h)).symm

/-- The layers follow the order of the sources, also when the environment changes, and when a
standard file appears beside the one that is named. -/
theorem settings_precedence_layered :
    (∃ k, Text.lower k = "scene_extension" ∧
      checkField (layeredWorld "debug" "yes") .sceneExtension
        ((sources (layeredWorld "debug" "yes") [.ofString "a.json"] layeredOverrides
          .sceneExtension k).findSome? id) = .ok "x") ∧
    (layered "y" false).get .logLevel = (layered "y" true).get .logLevel ∧
    fromFiles (layeredWorld "info" "yes") [] layeredOverrides =
      fromFiles (layeredWorld "debug" "yes") [] layeredOverrides ∧
    expandGiven (layeredWorld "info" "no") (.data (.text "~/p")) =
      expandGiven (layeredWorld "debug" "yes") (.data (.text "~/p")) ∧
    forCommand ((layeredWorld "debug" "yes").put ["godotcheck.json"] (.file []))
        (some (.ofString "a.json")) layeredOverrides =
      forCommand (layeredWorld "debug" "yes") (some (.ofString "a.json")) layeredOverrides ∧
    forCommand (layeredWorld "debug" "yes") none layeredOverrides =
      fromFiles (layeredWorld "debug" "yes")
        ((standardOrder ⟨.root, []⟩ ⟨.root, []⟩).filter
          (isFileSurely (layeredWorld "debug" "yes"))) layeredOverrides := by
  obtain ⟨hfields, -, hruns, hwhole, hplain, hnamed, hreal, hstandard⟩ := settings_precedence
  obtain ⟨hfile, hdebug, hinfo, s', hlevel⟩ := from_files_layered
  have hways : (layeredWorld "debug" "yes").SameWays (layeredWorld "info" "no") :=
    ⟨fun _ => rfl, rfl, rfl⟩
  have hinsert : (layeredWorld "debug" "yes").tree.SameWays
      ((layeredWorld "debug" "yes").tree.insert ([] ++ ["godotcheck.json"]) (.file [])) :=
    Tree.same_ways_insert rfl rfl []
  have hput : (layeredWorld "debug" "yes").SameWays
      ((layeredWorld "debug" "yes").put ["godotcheck.json"] (.file [])) :=
    ⟨hinsert, rfl, rfl⟩
  have hsame : s' = layered "y" true := by
    refine hwhole _ _ _ _ _ _ _ _ hdebug hlevel rfl fun f => ⟨f.key, layeredFirst f,
      counts_as_layered _ f, counts_as_layered _ f, first_source_layered (.inl rfl) f,
      first_source_layered (.inr rfl) f, fun g hg hpath => ?_⟩
    cases f with
    | projectRoot => cases hg
    | logFile => cases hg
    | _ => cases hpath
  obtain ⟨k, hk, hextension, -⟩ := (hfields _ _ _ _ hfile .sceneExtension).1
  exact ⟨⟨k, hk, hextension⟩,
    hruns _ _ _ _ _ _ _ _ hdebug hinfo .logLevel "log_level" (counts_as_layered _ _)
      (counts_as_layered _ _) 0 _ _ _ rfl rfl (fun hpath => by cases hpath),
    hlevel.trans ((congrArg _ hsame).trans hdebug.symm),
    hplain _ _ (.data (.text "~/p")) (hreal _ _ hways) rfl
      (fun text htext => by cases htext; decide) .projectRoot rfl,
    hnamed _ _ (.ofString "a.json") layeredOverrides (hreal _ _ hput) rfl rfl rfl rfl rfl,
    hstandard _ ⟨.root, []⟩ layeredOverrides rfl⟩

/-- `capitalsWorld` holds a file that names a field in capitals, and sets the same field in its
environment. -/
def capitalsWorld : World :=
  ⟨.directory [("c.json", .file (Text.Utf8.encode "\x7b\"DEBUG\": true\x7d"))],
    [("GODOTCHECK_DEBUG", "no")], [], ⟨[], [], []⟩, .usual⟩

/-- A value that should not count can be seen through a path: an override gives the path of the
project in two runs, but the path names the variable of that field, and its values differ. And a
file that does not have the key of a field can give its value all the same, in another spelling,
before the environment does. -/
theorem hidden_value_seen :
    (override? [("project_root", .data (.text "/$GODOTCHECK_PROJECT_ROOT"))] "project_root" =
        some (.data (.text "/$GODOTCHECK_PROJECT_ROOT")) ∧
      fromFiles ⟨.directory [], [("GODOTCHECK_PROJECT_ROOT", "a")], [], ⟨[], [], []⟩, .usual⟩ []
          [("project_root", .data (.text "/$GODOTCHECK_PROJECT_ROOT"))] =
        .ok { default ⟨.root, []⟩ with projectRoot := ⟨.root, ["a"]⟩ } ∧
      fromFiles ⟨.directory [], [("GODOTCHECK_PROJECT_ROOT", "b")], [], ⟨[], [], []⟩, .usual⟩ []
          [("project_root", .data (.text "/$GODOTCHECK_PROJECT_ROOT"))] =
        .ok { default ⟨.root, []⟩ with projectRoot := ⟨.root, ["b"]⟩ }) ∧
    ¬ IsNamed capitalsWorld [.ofString "c.json"] [] "debug" ∧
      inEnvironment? capitalsWorld .debug = some (.data (.text "no")) ∧
      fromFiles capitalsWorld [.ofString "c.json"] [] =
        .ok { default ⟨.root, []⟩ with debug := true } := by
  refine ⟨⟨rfl, rfl, rfl⟩, ?_, rfl, ?_⟩
  · rintro (hoverride | hfiles)
    · cases hoverride
    · exact absurd hfiles (by decide +kernel)
  · rw [← to_option_eq_some_iff]
    decide +kernel

end SceneLint.Settings
