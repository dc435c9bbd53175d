import SceneLint.Proofs.Json.Atoms
import SceneLint.Proofs.Settings.Sources
import SceneLint.Proofs.Text.Search
import SceneLint.Proofs.Text.Trim

/-!
# Lists written with commas

A list of names may be given as one text with commas between them. `comma_list_sources` says that
such a text counts exactly as the list itself where it stands among the entries, whether these are
keywords or come from files. A variable of the environment is read as JSON before it is checked, and
a text with commas is none (`comma_list_not_in_environment`): there it never gives the list.
-/

namespace SceneLint.Settings

/-! ## Names between commas -/

/-- `IsItem name` says that a name may stand in a list with commas, and that it does not begin as a
JSON text, list or object does. -/
structure IsItem (name : String) : Prop where
  not_empty : name ≠ ""
  no_comma : ',' ∉ name.toList
  trimmed : Text.trimmed name = name
  starts : ∀ c ∈ name.toList.head?, c ≠ '"' ∧ c ≠ '[' ∧ c ≠ '\x7b'

/-- `commaText names` is names with commas between them. -/
def commaText (names : List String) : String :=
  ",".intercalate names

variable {w : World} {names : List String} {f f' : Setting} {s : Settings}
  {entries others : List Entry}

/-- Names are read again from the text that holds them between commas. -/
theorem comma_list_comma_text (hne : names ≠ []) (h : ∀ name ∈ names, IsItem name) :
    commaList (commaText names) = names := by
  have hsplit : Text.splitText ',' (commaText names) = names := by
    rw [Text.splitText, commaText, String.toList_intercalate]
    have hfree : ∀ piece ∈ names.map String.toList, ',' ∉ piece := by
      simpa using fun name hname => (h name hname).no_comma
    have hpieces := List.splitOn_intercalate ',' hfree (by simpa using hne)
    show (List.splitOn ',' ([','].intercalate (names.map String.toList))).map String.ofList = names
    rw [hpieces]
    simp
  have htrim : names.map Text.trimmed = names := by
    rw [List.map_congr_left fun name hname => (h name hname).trimmed, List.map_id']
  rw [commaList, hsplit, htrim, List.filter_eq_self]
  intro name hname
  exact bne_iff_ne.2 (h name hname).not_empty

/-- A name neither starts nor ends with a blank. -/
theorem IsItem.bare {name : String} (h : IsItem name) :
    Text.StartsBare name.toList ∧ Text.EndsBare name.toList := by
  have htrim := congrArg String.toList h.trimmed
  rw [Text.trimmed, String.toList_ofList] at htrim
  have hend : Text.EndsBare name.toList := htrim ▸ Text.ends_bare_trim name.toList
  obtain ⟨-, -, hstart, -⟩ := Text.exists_gap_trim hend
  exact ⟨htrim ▸ hstart, hend⟩

/-- A text with commas starts as its first name does. -/
theorem comma_text_starts (hne : names ≠ []) (h : ∀ name ∈ names, IsItem name) :
    ∃ c cs, (commaText names).toList = c :: cs ∧ Text.isBlank c = false ∧
      c ≠ '"' ∧ c ≠ '[' ∧ c ≠ '\x7b' := by
  obtain ⟨name, others, rfl⟩ := List.exists_cons_of_ne_nil hne
  have hname : IsItem name := h name List.mem_cons_self
  obtain ⟨c, cs, hcs⟩ := List.exists_cons_of_ne_nil
    (fun hnil => hname.not_empty (String.toList_eq_nil_iff.1 hnil))
  have hhead : c ∈ name.toList.head? := by rw [hcs]; rfl
  refine ⟨c, ?_⟩
  cases others with
  | nil => exact ⟨cs, hcs, hname.bare.1 c hhead, hname.starts c hhead⟩
  | cons next others =>
      refine ⟨cs ++ ("," ++ commaText (next :: others)).toList, ?_, hname.bare.1 c hhead,
        hname.starts c hhead⟩
      rw [commaText, String.intercalate_cons_cons, String.append_assoc, String.toList_append, hcs,
        List.cons_append]
      rfl

/-- A text with commas ends as its last name does. -/
theorem comma_text_ends_bare (hne : names ≠ []) (h : ∀ name ∈ names, IsItem name) :
    Text.EndsBare (commaText names).toList := by
  obtain ⟨front, name, rfl⟩ := (List.eq_nil_or_concat names).resolve_left hne
  have hname : IsItem name := h name (by simp)
  rw [List.concat_eq_append]
  cases front with
  | nil => exact hname.bare.2
  | cons first front =>
      rw [commaText, Text.intercalate_append "," (by simp) (by simp), String.toList_append]
      refine Text.ends_bare_append ?_ hname.bare.2
      exact fun hnil => hname.not_empty (String.toList_eq_nil_iff.1 hnil)

/-- A text with commas is checked as the list of names between them. -/
theorem check_list_comma_text (hne : names ≠ []) (h : ∀ name ∈ names, IsItem name) (f : Setting) :
    checkList f (.data (.text (commaText names))) = .ok names := by
  show Checked.ok (commaList (commaText names)) = _
  rw [comma_list_comma_text hne h]

/-- A list of texts is taken as it is. -/
theorem check_list_of_texts (f : Setting) (names : List String) :
    checkList f (.data (.ofTexts names)) = .ok names := by
  have hitems : ∀ index, checkItems f index (names.map .text) = .ok names := by
    induction names with
    | nil => exact fun _ => rfl
    | cons name names ih =>
        intro index
        rw [List.map_cons, checkItems, ih]
        rfl
  exact hitems 0

/-! ## Fields that hold lists -/

/-- `items s f` is the names that a field holds. -/
def items (s : Settings) : Setting → List String
  | .skipDirs => s.skipDirs
  | .masterTypes => s.masterTypes
  | _ => []

/-- `withItems s f names` is the settings with other names in a field. -/
def withItems (s : Settings) (f : Setting) (names : List String) : Settings :=
  match f with
  | .skipDirs => { s with skipDirs := names }
  | .masterTypes => { s with masterTypes := names }
  | _ => s

/-- The other fields keep their values. -/
theorem get_with_items_of_ne (h : f' ≠ f) (s : Settings) (names : List String) :
    (s.withItems f names).get f' = s.get f' := by
  cases f <;> cases f' <;> first | rfl | exact absurd rfl h

/-- A list of texts is what a field holds once it is given, and such settings hold nothing else. -/
theorem check_field_of_texts (hf : f.isList = true) (w : World) (s : Settings)
    (names : List String) :
    checkField w f (some (.data (.ofTexts names))) = .ok ((s.withItems f names).get f) := by
  cases f with
  | skipDirs => exact check_list_of_texts .skipDirs names
  | masterTypes => exact check_list_of_texts .masterTypes names
  | _ => cases hf

/-- A field that a list of texts was given for holds that list. -/
theorem items_of_check_field (hf : f.isList = true)
    (h : checkField w f (some (.data (.ofTexts names))) = .ok (s.get f)) : s.items f = names := by
  cases f with
  | skipDirs => exact (Checked.ok.inj ((check_list_of_texts .skipDirs names).symm.trans h)).symm
  | masterTypes =>
      exact (Checked.ok.inj ((check_list_of_texts .masterTypes names).symm.trans h)).symm
  | _ => cases hf

/-- A field makes of a text with commas what it makes of the list. -/
theorem check_field_comma_text (hf : f.isList = true) (hne : names ≠ [])
    (h : ∀ name ∈ names, IsItem name) (w : World) :
    checkField w f (some (.data (.text (commaText names)))) =
      checkField w f (some (.data (.ofTexts names))) := by
  have hlist : checkList f (.data (.text (commaText names))) =
      checkList f (.data (.ofTexts names)) := by
    rw [check_list_comma_text hne h, check_list_of_texts]
  cases f with
  | skipDirs => exact hlist
  | masterTypes => exact hlist
  | _ => cases hf

/-! ## Loading -/

/-- Entries that every field makes the same of are loaded alike. -/
theorem load_congr (h : ∀ f below?, checkField w f (named? f.key entries <|> below?) =
      checkField w f (named? f.key others <|> below?)) :
    load w entries = load w others := by
  have hvalidate : ∀ environment file, validate w (firstGiven entries environment file) =
      validate w (firstGiven others environment file) := by
    intro environment file
    rw [validate, validate, check_eq, check_eq]
    simp only [firstGiven, h]
  simp only [load, hvalidate]

/-- An entry at the end counts for its own field, and for no other. -/
theorem named_concat (entries : List Entry) (f f' : Setting) (g : Given) :
    named? f'.key (entries ++ [(f.key, g)]) = if f = f' then some g else named? f'.key entries := by
  have hname : (f.key == f'.key) = decide (f = f') := by
    cases f <;> cases f' <;> decide
  have hlower : (Text.lower f.key == f'.key) = decide (f = f') := by
    rw [lower_key, hname]
  rw [named?, lastField?, lastNamed?, List.reverse_append, List.reverse_singleton,
    List.singleton_append, List.find?_cons, List.find?_cons, hname, hlower]
  by_cases h : f = f' <;> simp [h, named?, lastField?, lastNamed?]

/-- `Loads w entries outcome` says that entries are loaded with an outcome: keywords, or what one
file or several files and overrides hold. -/
inductive Loads (w : World) : List Entry → Except Failure Settings → Prop where
  | keywords (given) : Loads w given (load w given)
  | file (path data named) :
      ConfigFile.read w path = .ok data → namedEntries data = .ok named →
      Loads w named (fromFile w path)
  | files (paths overrides data named) :
      readAll w paths = .ok data → namedEntries data = .ok named →
      Loads w (collectFields (named ++ overrides.filter fun entry => isGiven entry.2))
        (fromFiles w paths overrides)

/-- Keywords and files are loaded in one way. -/
theorem Loads.eq_load {outcome : Except Failure Settings} (h : Loads w entries outcome) :
    outcome = load w entries := by
  cases h with
  | keywords => rfl
  | file path data named hread hnamed => simp [fromFile, hread, hnamed, bind, Except.bind]
  | files paths overrides data named hread hnamed =>
      simp [fromFiles, hread, hnamed, bind, Except.bind]

/-- A text with commas among the entries is loaded as the list behind all of them. -/
theorem load_comma_text (hf : f.isList = true) (hne : names ≠ []) (h : ∀ name ∈ names, IsItem name)
    (hlast : named? f.key entries = some (.data (.text (commaText names)))) :
    load w entries = load w (entries ++ [(f.key, .data (.ofTexts names))]) := by
  refine load_congr fun f' below? => ?_
  rw [named_concat]
  by_cases hsame : f = f'
  · subst hsame
    rw [hlast, if_pos rfl]
    exact check_field_comma_text hf hne h w
  · rw [if_neg hsame]

/-- A list behind all entries changes its own field, and makes it valid. -/
theorem load_list (hf : f.isList = true)
    (hothers : ∀ f' ≠ f, named? f'.key others = named? f'.key entries)
    (h : load w others = .ok s) (names : List String) :
    load w (entries ++ [(f.key, .data (.ofTexts names))]) = .ok (s.withItems f names) := by
  obtain ⟨assigned, environment, file, hassigned, henvironment, hfile, hfields⟩ :=
    load_eq_ok_iff.1 h
  refine load_eq_ok_iff.2 ⟨assigned, environment, file, hassigned, henvironment, hfile, ?_⟩
  intro f'
  rw [firstGiven, named_concat]
  by_cases hsame : f = f'
  · subst hsame
    rw [if_pos rfl]
    exact check_field_of_texts hf w s names
  · rw [if_neg hsame, get_with_items_of_ne (Ne.symm hsame), ← hothers f' (Ne.symm hsame)]
    exact hfields f'

/-- Where a list is given behind all entries, its field holds it. -/
theorem items_of_load_list (hf : f.isList = true)
    (h : load w (entries ++ [(f.key, .data (.ofTexts names))]) = .ok s) : s.items f = names := by
  have hfield := load_field h f
  rw [named_concat, if_pos rfl] at hfield
  exact items_of_check_field hf hfield

/-! ## The environment -/

/-- The variable of a field can be read if all can. -/
theorem read_variable_of_gather {host : Host} {origin : SettingsOrigin}
    {assigned : List (String × Option String)} {settings : List Setting}
    {found : List (Setting × Given)} (h : gather host origin assigned settings = .ok found)
    (hf : f ∈ settings) {text : String}
    (htext : (lastNamed? (variableName f) assigned).join = some text) :
    ∃ value?, readVariable host origin f text = .ok value? := by
  induction settings generalizing found with
  | nil => cases hf
  | cons setting settings ih =>
      obtain ⟨others, hothers, -⟩ := gather_cons h
      rcases List.mem_cons.1 hf with rfl | hf
      · simp only [gather, htext] at h
        obtain ⟨value?, hvalue, -⟩ := bind_eq_ok_iff.1 h
        exact ⟨value?, hvalue⟩
      · exact ih hothers hf

/-- A text with commas that is read as null is the word for it. -/
theorem names_of_null (hne : names ≠ []) (h : ∀ name ∈ names, IsItem name) {spaces : List Char}
    (hspaces : ∀ c ∈ spaces, Json.isSpace c = true)
    (hnull : (commaText names).toList = "null".toList ++ spaces) : names = ["null"] := by
  have hblanks : Text.Blanks spaces := by
    intro c hc
    rcases Json.space_cases (hspaces c hc) with rfl | rfl | rfl | rfl <;> decide
  have hend := comma_text_ends_bare hne h
  rw [hnull] at hend
  rw [hblanks.eq_nil hend.of_append, List.append_nil, String.toList_inj] at hnull
  rw [← comma_list_comma_text hne h, hnull]
  decide

/-- A list is not made of an atom. -/
theorem check_field_atom (hf : f.isList = true) {v : Json} (hatom : v.IsAtom) (w : World)
    (value : f.Value) : checkField w f (some (.data (.ofJson v))) ≠ .ok value := by
  have hlist : ∀ names : List String, checkList f (.data (.ofJson v)) ≠ .ok names := by
    cases v with
    | text _ => exact hatom.elim
    | list _ => exact hatom.elim
    | object _ => exact hatom.elim
    | _ => exact nofun
  cases f with
  | skipDirs => exact hlist value
  | masterTypes => exact hlist value
  | _ => cases hf

/-- What a variable gives that holds a text with commas makes no list; it gives nothing only if the
text is the word for that. -/
theorem read_variable_comma_text (hf : f.isList = true) (hne : names ≠ [])
    (h : ∀ name ∈ names, IsItem name) {host : Host} {origin : SettingsOrigin}
    {value? : Option Given}
    (hvalue : readVariable host origin f (commaText names) = .ok value?) :
    (value? = none ∧ names = ["null"]) ∨
      ∃ v : Json, value? = some (.data (.ofJson v)) ∧ v.IsAtom := by
  obtain ⟨c, cs, hcs, hblank, hquote, hbracket, hbrace⟩ := comma_text_starts hne h
  have hspace : Json.isSpace c = false := by
    rw [Bool.eq_false_iff]
    intro hspace
    rcases Json.space_cases hspace with rfl | rfl | rfl | rfl <;> cases hblank
  rw [readVariable, if_pos hf] at hvalue
  split at hvalue
  · split at hvalue <;> cases hvalue
  · next hparse =>
      cases hvalue
      obtain ⟨-, hnull⟩ := Json.parse_atom hcs hspace hquote hbracket hbrace hparse
      obtain ⟨spaces, hspaces, heq⟩ := hnull rfl
      exact .inl ⟨rfl, names_of_null hne h hspaces heq⟩
  · next v _ hparse =>
      cases hvalue
      exact .inr ⟨v, rfl, (Json.parse_atom hcs hspace hquote hbracket hbrace hparse).1⟩

/-- A variable that holds a text with commas never makes the list: settings are not loaded, or it is
the word for nothing, and then the variable does not count. -/
theorem not_loaded_from_environment (hf : f.isList = true) (hne : names ≠ [])
    (h : ∀ name ∈ names, IsItem name) (hlast : named? f.key entries = none)
    (hvariable : lastNamed? (variableName f) (environmentVariables w) =
      some (some (commaText names))) (hload : load w entries = .ok s) :
    names = ["null"] ∧ checkField w f (inEnvironmentFile? w f) = .ok (s.get f) := by
  obtain ⟨assigned, environment, file, -, henvironment, -, -⟩ := load_eq_ok_iff.1 hload
  have htext : (lastNamed? (variableName f) (environmentVariables w)).join =
      some (commaText names) := by rw [hvariable]; rfl
  obtain ⟨value?, hvalue⟩ := read_variable_of_gather henvironment (mem_all f) htext
  have hfield := load_field hload f
  have hgiven : inEnvironment? w f = value? := by
    simp [inEnvironment?, fromVariables?, htext, hvalue, Except.toOption]
  rw [hlast, hgiven] at hfield
  rcases read_variable_comma_text hf hne h hvalue with ⟨rfl, hnull⟩ | ⟨v, rfl, hatom⟩
  · exact ⟨hnull, by simpa using hfield⟩
  · exact absurd hfield (check_field_atom hf hatom w _)

/-! ## Every source -/

/-- Lists with commas. Among the entries, which are keywords or come from files, a text with the
names of a list between commas is loaded as the list itself; the field holds exactly the names, and
settings that are loaded from entries which agree on the other fields only change in this one. In
the environment such a text never counts: settings are not loaded, unless the text is the JSON word
for nothing, and then the field is what the environment file makes it. -/
theorem comma_list_sources {names : List String} (hne : names ≠ [])
    (hnames : ∀ name ∈ names, IsItem name) {f : Setting} (hf : f.isList = true) :
    (∀ (w : World) (entries : List Entry) (outcome : Except Failure Settings),
      Loads w entries outcome →
      named? f.key entries = some (.data (.text (commaText names))) →
        outcome = load w (entries ++ [(f.key, .data (.ofTexts names))]) ∧
        (∀ s, outcome = .ok s → s.items f = names) ∧
        (∀ others s, (∀ f' ≠ f, named? f'.key others = named? f'.key entries) →
          load w others = .ok s → outcome = .ok (s.withItems f names))) ∧
    (∀ (w : World) (entries : List Entry) (outcome : Except Failure Settings),
      Loads w entries outcome → named? f.key entries = none →
      lastNamed? (variableName f) (environmentVariables w) = some (some (commaText names)) →
        (names ≠ ["null"] → ∃ e, outcome = .error e) ∧
        (∀ s, outcome = .ok s → checkField w f (inEnvironmentFile? w f) = .ok (s.get f))) := by
  constructor
  · intro w entries outcome hloads hlast
    have houtcome : outcome = load w (entries ++ [(f.key, .data (.ofTexts names))]) :=
      hloads.eq_load.trans (load_comma_text hf hne hnames hlast)
    refine ⟨houtcome, fun s hs => ?_, fun others s hothers hs => ?_⟩
    · exact items_of_load_list hf (houtcome.symm.trans hs)
    · exact houtcome.trans (load_list hf hothers hs names)
  · intro w entries outcome hloads hlast hvariable
    rw [hloads.eq_load]
    refine ⟨fun hnull => ?_, fun s hs => ?_⟩
    · cases hs : load w entries with
      | error e => exact ⟨e, rfl⟩
      | ok s => exact absurd (not_loaded_from_environment hf hne hnames hlast hvariable hs).1 hnull
    · exact (not_loaded_from_environment hf hne hnames hlast hvariable hs).2

/-- `listed` is a list of two directories, one with a blank in its name. -/
def listed : List String := ["addons", "my dir"]

/-- The directories may stand in a list with commas. -/
theorem listed_items : ∀ name ∈ listed, IsItem name := by
  have hfirst : IsItem "addons" := by
    refine ⟨by decide, by decide, by decide, fun c hc => ?_⟩
    obtain rfl : 'a' = c := Option.some.inj hc
    decide
  have hsecond : IsItem "my dir" := by
    refine ⟨by decide, by decide, by decide, fun c hc => ?_⟩
    obtain rfl : 'm' = c := Option.some.inj hc
    decide
  simp [listed, hfirst, hsecond]

/-- `listedWorld environment` holds a file that gives the directories with commas. -/
def listedWorld (environment : List (String × String)) : World :=
  ⟨.directory [("a.json", .file (Text.Utf8.encode "\x7b\"skip_dirs\": \"addons,my dir\"\x7d"))],
    environment, [], ⟨[], [], []⟩, .usual⟩

/-- A value that is the same key as a text is this text. -/
theorem eq_text_of_same_key {v : Data} {text : String} (h : v.sameKey (.text text) = true) :
    v = .text text := by
  cases v with
  | text other => simpa [Data.sameKey, Data.number?] using h
  | float x => cases hx : x.integer? <;> simp [Data.sameKey, Data.number?, hx] at h
  | _ => simp [Data.sameKey, Data.number?] at h

/-- The file holds one text. -/
theorem read_listed : ConfigFile.read (listedWorld []) (.ofString "a.json") =
    .ok [(.text "skip_dirs", .text "addons,my dir")] := by
  have hread : ((ConfigFile.read (listedWorld []) (.ofString "a.json")).toOption.any fun data =>
      data.length == 1 && data.all fun entry => entry.1.sameKey (.text "skip_dirs") &&
        entry.2.sameKey (.text "addons,my dir")) = true := by decide +kernel
  cases hdata : ConfigFile.read (listedWorld []) (.ofString "a.json") with
  | error e =>
      rw [hdata] at hread
      cases hread
  | ok data =>
      rw [hdata] at hread
      have hfound : data.length = 1 ∧ ∀ entry ∈ data, entry.1.sameKey (.text "skip_dirs") = true ∧
          entry.2.sameKey (.text "addons,my dir") = true := by
        simpa [Except.toOption] using hread
      obtain ⟨⟨key, value⟩, rfl⟩ := List.length_eq_one_iff.1 hfound.1
      obtain ⟨hkey, hvalue⟩ := hfound.2 _ (List.mem_singleton_self _)
      obtain rfl : key = .text "skip_dirs" := eq_text_of_same_key hkey
      obtain rfl : value = .text "addons,my dir" := eq_text_of_same_key hvalue
      rfl

/-- The file gives the list, and the variable does not. -/
theorem comma_list_sources_listed :
    fromFile (listedWorld []) (.ofString "a.json") =
        .ok { default ⟨.root, []⟩ with skipDirs := ["addons", "my dir"] } ∧
      ∃ e, load (listedWorld [("GODOTCHECK_SKIP_DIRS", "addons,my dir")]) [] = .error e := by
  obtain ⟨hentries, henvironment⟩ :=
    comma_list_sources (by decide) listed_items (show Setting.skipDirs.isList = true from rfl)
  have hfile : Loads (listedWorld []) [("skip_dirs", .data (.text "addons,my dir"))]
      (fromFile (listedWorld []) (.ofString "a.json")) :=
    .file _ _ _ read_listed rfl
  refine ⟨(hentries _ _ _ hfile rfl).2.2 [] (default ⟨.root, []⟩) ?_ rfl,
    (henvironment _ _ _ (.keywords []) rfl rfl).1 (by decide)⟩
  intro f' hne
  cases f' with
  | skipDirs => exact absurd rfl hne
  | _ => rfl

/-- One text with commas is a list as a keyword, and cannot be read as a variable. -/
theorem comma_list_not_in_environment :
    load ⟨.directory [], [], [], ⟨[], [], []⟩, .usual⟩
          [("skip_dirs", .data (.text "addons,build"))] =
        .ok { default ⟨.root, []⟩ with skipDirs := ["addons", "build"] } ∧
      load ⟨.directory [], [("GODOTCHECK_SKIP_DIRS", "addons,build")], [], ⟨[], [], []⟩, .usual⟩
          [] =
        .error (.unreadableSetting .skipDirs .environment) :=
  ⟨rfl, rfl⟩

end SceneLint.Settings
