import SceneLint.Log.State
import SceneLint.Proofs.Settings.Sources

/-!
# What logging makes of settings

A log level is put in upper case and has to be one of five then, so settings that are accepted hold
one of these five, and logging is always set up, unless its file cannot be opened. A log format is
put in lower case and compared without regard to case afterwards. There is one letter that the
second step takes for another and the first leaves alone: the long s. So three more texts are
accepted (`fold_mem_formats_iff`), and the renderer, which knows the formats by their plain names,
takes two of them for the wrong one (`logging_settings_usable`).
-/

namespace SceneLint.Settings

variable {w : World} {given : Setting → Option Given} {s : Settings} {g : Given}

/-! ## The long s -/

/-- `longFormats` is the log formats written with a long s. -/
def longFormats : List String := ["conſole", "jſon", "ſtructured"]

/-- A long s is read as a plain one. -/
theorem plain_letter_eq_s_iff {c : Char} : plainLetter c = 's' ↔ c = 's' ∨ c = 'ſ' := by
  have hlong : c.toNat = 0x17F ↔ c = 'ſ' := Char.toNat_inj (d := 'ſ')
  rw [plainLetter]
  split
  · next h => simp [hlong.1 h]
  · next h =>
      have hne : c ≠ 'ſ' := fun heq => h (hlong.2 heq)
      simp [hne]

/-- Every other letter is read as itself. -/
theorem plain_letter_eq_iff {c d : Char} (hplain : d ≠ 's') (hlong : d ≠ 'ſ') :
    plainLetter c = d ↔ c = d := by
  rw [plainLetter]
  split
  · next h =>
      obtain rfl : c = 'ſ' := Char.toNat_inj.1 h
      exact ⟨fun heq => absurd heq.symm hplain, fun heq => absurd heq.symm hlong⟩
  · exact Iff.rfl

/-- Letters without any s are read as themselves. -/
theorem map_plain_letter_eq_iff {cs ds : List Char} (hplain : 's' ∉ ds) (hlong : 'ſ' ∉ ds) :
    cs.map plainLetter = ds ↔ cs = ds := by
  induction ds generalizing cs with
  | nil => simp
  | cons d ds ih =>
      simp only [List.mem_cons, not_or] at hplain hlong
      cases cs with
      | nil => simp
      | cons c cs =>
          rw [List.map_cons, List.cons.injEq, List.cons.injEq, ih hplain.2 hlong.2,
            plain_letter_eq_iff (Ne.symm hplain.1) (Ne.symm hlong.1)]

/-- A word with one s is read from two texts. -/
theorem fold_long_s_eq_iff (x : String) (front back : List Char)
    (hfront : 's' ∉ front ∧ 'ſ' ∉ front) (hback : 's' ∉ back ∧ 'ſ' ∉ back) :
    foldLongS x = String.ofList (front ++ 's' :: back) ↔
      x = String.ofList (front ++ 's' :: back) ∨ x = String.ofList (front ++ 'ſ' :: back) := by
  rw [foldLongS, String.ofList_inj, ← String.toList_inj, ← String.toList_inj,
    String.toList_ofList, String.toList_ofList, List.map_eq_append_iff]
  constructor
  · rintro ⟨a, b, hx, ha, hb⟩
    obtain ⟨c, b, rfl, hc, hb⟩ := List.map_eq_cons_iff.1 hb
    rw [map_plain_letter_eq_iff hfront.1 hfront.2] at ha
    rw [map_plain_letter_eq_iff hback.1 hback.2] at hb
    subst ha hb
    rcases plain_letter_eq_s_iff.1 hc with rfl | rfl
    · exact .inl hx
    · exact .inr hx
  · have hread : ∀ c, c = 's' ∨ c = 'ſ' → x.toList = front ++ c :: back →
        ∃ a b, x.toList = a ++ b ∧ a.map plainLetter = front ∧
          b.map plainLetter = 's' :: back := by
      intro c hc hx
      refine ⟨front, c :: back, hx, (map_plain_letter_eq_iff hfront.1 hfront.2).2 rfl, ?_⟩
      rw [List.map_cons, plain_letter_eq_s_iff.2 hc,
        (map_plain_letter_eq_iff hback.1 hback.2).2 rfl]
    rintro (hx | hx)
    · exact hread 's' (.inl rfl) hx
    · exact hread 'ſ' (.inr rfl) hx

/-- A text is read as a format if it is one, perhaps with a long s. -/
theorem fold_mem_formats_iff (x : String) :
    foldLongS x ∈ formats ↔ x ∈ formats ∨ x ∈ longFormats := by
  have hconsole : foldLongS x = "console" ↔ x = "console" ∨ x = "conſole" :=
    fold_long_s_eq_iff x "con".toList "ole".toList (by decide) (by decide)
  have hjson : foldLongS x = "json" ↔ x = "json" ∨ x = "jſon" :=
    fold_long_s_eq_iff x "j".toList "on".toList (by decide) (by decide)
  have hstructured : foldLongS x = "structured" ↔ x = "structured" ∨ x = "ſtructured" :=
    fold_long_s_eq_iff x "".toList "tructured".toList (by decide) (by decide)
  simp only [formats, longFormats, List.mem_cons, List.not_mem_nil, or_false, hconsole, hjson,
    hstructured]
  grind

/-! ## The two fields -/

/-- A value that is checked in one way only is accepted if it passes. -/
theorem ite_single_eq_ok_iff {p : Prop} [Decidable p] {f : Setting} {fault : FieldFault}
    {input : Data} {a b : String} :
    (if p then .ok a else Checked.single f fault input) = .ok b ↔ p ∧ a = b := by
  split <;> simp [*, Checked.single]

/-- A log level is accepted if it is a text that is one of the levels in upper case. -/
theorem check_level_eq_ok_iff {level : String} : checkLevel g = .ok level ↔
    ∃ text, g.toData = .text text ∧ Text.upper text ∈ levels ∧ Text.upper text = level := by
  rw [checkLevel.eq_def]
  cases g.toData with
  | text text => simp [ite_single_eq_ok_iff]
  | _ => simp [Checked.single]

/-- A log format is accepted if it is a text that is read as one of the formats in lower case. -/
theorem check_format_eq_ok_iff {format : String} : checkFormat g = .ok format ↔
    ∃ text, g.toData = .text text ∧ foldLongS (Text.lower text) ∈ formats ∧
      Text.lower text = format := by
  rw [checkFormat.eq_def]
  cases g.toData with
  | text text => simp [ite_single_eq_ok_iff]
  | _ => simp [Checked.single]

/-- Where a check accepts the texts whose normal form fits, and makes this form of them, a field
holds a text that fits: the default, or the normal form of what was given. -/
theorem normal_of_or_default (Fits : String → Prop) {check : Given → Checked String}
    {normal : String → String} {standard value : String} {g? : Option Given}
    (hcheck : ∀ g value, check g = .ok value ↔
      ∃ text, g.toData = .text text ∧ Fits (normal text) ∧ normal text = value)
    (hstandard : Fits standard) (h : orDefault check standard g? = .ok value) :
    Fits value ∧ ∀ g, g? = some g → ∃ text, g.toData = .text text ∧ value = normal text := by
  cases g? with
  | none =>
      cases h
      exact ⟨hstandard, fun g hg => by cases hg⟩
  | some given =>
      obtain ⟨text, htext, hfits, rfl⟩ := (hcheck given value).1 h
      refine ⟨hfits, fun g hg => ⟨text, ?_, rfl⟩⟩
      rw [← Option.some.inj hg, htext]

/-- Valid settings have one of the five log levels: that of the text that was given, in upper
case. -/
theorem level_of_valid (h : validate w given = .ok s) : s.logLevel ∈ levels ∧
    ∀ g, given .logLevel = some g →
      ∃ text, g.toData = .text text ∧ s.logLevel = Text.upper text :=
  normal_of_or_default (· ∈ levels) (fun _ _ => check_level_eq_ok_iff)
    (show "WARNING" ∈ levels by decide) (validate_eq_ok_iff.1 h .logLevel)

/-- Valid settings have a log format that is read as one of the three: the text that was given, in
lower case. -/
theorem format_of_valid (h : validate w given = .ok s) : foldLongS s.logFormat ∈ formats ∧
    ∀ g, given .logFormat = some g →
      ∃ text, g.toData = .text text ∧ s.logFormat = Text.lower text :=
  normal_of_or_default (foldLongS · ∈ formats) (fun _ _ => check_format_eq_ok_iff)
    (show foldLongS "console" ∈ formats by decide)
    (validate_eq_ok_iff.1 h .logFormat)

/-! ## Setting up logging -/

/-- Every level that may be set has a number. -/
theorem level_known : ∀ level ∈ levels, ∃ n, LogState.level? level = some n ∧
    LogState.level? (Text.upper level) = some n := by
  simp only [levels, List.mem_cons, List.not_mem_nil, or_false]
  rintro level (rfl | rfl | rfl | rfl | rfl)
  · exact ⟨10, by decide, by decide⟩
  · exact ⟨20, by decide, by decide⟩
  · exact ⟨30, by decide, by decide⟩
  · exact ⟨40, by decide, by decide⟩
  · exact ⟨50, by decide, by decide⟩

/-- Where a log file cannot be opened, the system refuses it. -/
theorem open_log_error {path : FilePath} {f : Failure} (h : LogState.openLog w path = .error f) :
    ∃ e, f = .system e := by
  unfold LogState.openLog at h
  split at h
  · next e _ =>
      cases h
      exact ⟨e, rfl⟩
  · split at h
    · next e _ =>
        cases h
        exact ⟨e, rfl⟩
    · cases h

/-- With one of the levels, logging is set up with its number, and with the renderer and the routing
of the format, once the log file is open; in a test every format is routed. -/
theorem configure_of_level (h : s.logLevel ∈ levels) (w : World) :
    (∀ f, LogState.configure w s = .error f → ∃ e, f = .system e) ∧
    ∀ state w', LogState.configure w s = .ok (state, w') →
      LogState.level? s.logLevel = some state.level ∧
      state.renderer = .ofFormat s.logFormat ∧
      state.isRouted = (LogState.routedFormats.contains s.logFormat || LogState.isTest w) := by
  obtain ⟨n, hn, hupper⟩ := level_known s.logLevel h
  simp only [LogState.configure, hupper]
  cases s.logFile with
  | none =>
      refine ⟨nofun, ?_⟩
      rintro _ _ ⟨⟩
      exact ⟨hn, rfl, rfl⟩
  | some path =>
      cases hopen : LogState.openLog w path with
      | error e =>
          simp only [hopen, Except.map]
          refine ⟨?_, nofun⟩
          rintro _ ⟨⟩
          exact open_log_error hopen
      | ok opened =>
          simp only [hopen, Except.map]
          refine ⟨nofun, ?_⟩
          rintro _ _ ⟨⟩
          exact ⟨hn, rfl, rfl⟩

/-! ## Settings from any source -/

/-- `Accepted w s` says that settings are made of values that were given for the fields. -/
def Accepted (w : World) (s : Settings) : Prop :=
  ∃ given, validate w given = .ok s

/-- Settings from entries are accepted. -/
theorem accepted_of_load {entries : List Entry} (h : load w entries = .ok s) : Accepted w s := by
  obtain ⟨assigned, environment, file, -, -, -, hfields⟩ := load_eq_ok_iff.1 h
  exact ⟨firstGiven entries environment file, validate_eq_ok_iff.2 hfields⟩

/-- Settings from a file are accepted. -/
theorem accepted_of_from_file {path : FilePath} (h : fromFile w path = .ok s) : Accepted w s := by
  obtain ⟨data, -, h⟩ := bind_eq_ok_iff.1 h
  obtain ⟨named, -, h⟩ := bind_eq_ok_iff.1 h
  exact accepted_of_load h

/-- Settings from files and overrides are accepted. -/
theorem accepted_of_from_files {paths : List FilePath} {overrides : List Entry}
    (h : fromFiles w paths overrides = .ok s) : Accepted w s := by
  obtain ⟨data, -, h⟩ := bind_eq_ok_iff.1 h
  obtain ⟨named, -, h⟩ := bind_eq_ok_iff.1 h
  exact accepted_of_load h

/-- The settings of a run that is told nothing more are accepted. -/
theorem accepted_of_current (h : current w = .ok s) : Accepted w s := by
  obtain ⟨paths, -, h⟩ := bind_eq_ok_iff.1 h
  split at h
  · exact accepted_of_load h
  · exact accepted_of_from_files h

/-- The settings of a command are accepted. -/
theorem accepted_of_for_command {file? : Option FilePath} {overrides : List Entry}
    (h : forCommand w file? overrides = .ok s) : Accepted w s := by
  cases file? with
  | none =>
      obtain ⟨paths, -, h⟩ := bind_eq_ok_iff.1 h
      exact accepted_of_from_files h
  | some path =>
      obtain ⟨exists?, -, h⟩ := bind_eq_ok_iff.1 h
      split at h
      · exact accepted_of_from_files h
      · cases h

/-! ## Logging with accepted settings -/

/-- The renderer of a format is that of the format it is read as, and it is routed like this format,
unless a long s hides one for machines. -/
theorem renderer_of_format : ∀ format ∈ formats ++ longFormats,
    ((Renderer.ofFormat format).name = foldLongS format ↔ format ∉ ["jſon", "ſtructured"]) ∧
      ((format ∈ LogState.routedFormats ↔ foldLongS format ∈ LogState.routedFormats) ↔
        format ∉ ["jſon", "ſtructured"]) := by
  decide

/-- Logging with accepted settings. Settings come to be accepted in five ways. Their log level is
one of the five levels, and logging is set up with the number of this level, unless the system does
not let the log file be opened. Their log format is one of the three formats, or one of these
written with a long s; it is read as one of the three. The renderer is that of the format as it is
read except for two of the texts with a long s. Events are routed through it for the plain names of
the formats for machines, and in a test for every format; so outside a test the routing, too, is
that of the format as it is read except for those two texts. Both settings are the texts that were
given, the level in upper case and the format in lower case. -/
theorem logging_settings_usable (w : World) (s : Settings) :
    ((∃ entries, load w entries = .ok s) ∨ (∃ path, fromFile w path = .ok s) ∨
      (∃ paths overrides, fromFiles w paths overrides = .ok s) ∨ current w = .ok s ∨
      (∃ file? overrides, forCommand w file? overrides = .ok s) → Accepted w s) ∧
    (Accepted w s →
      s.logLevel ∈ levels ∧ s.logFormat ∈ formats ++ longFormats ∧
      foldLongS s.logFormat ∈ formats ∧
      ∀ w' : World, (∀ f, LogState.configure w' s = .error f → ∃ e, f = .system e) ∧
        ∀ state w'', LogState.configure w' s = .ok (state, w'') →
          LogState.level? s.logLevel = some state.level ∧
          (state.renderer.name = foldLongS s.logFormat ↔
            s.logFormat ∉ ["jſon", "ſtructured"]) ∧
          (state.isRouted = true ↔ s.logFormat ∈ ["json", "structured"] ∨
            w'.host.isTest = true ∨ (w'.variableValue? "PYTEST_CURRENT_TEST").isSome = true) ∧
          (LogState.isTest w' = false →
            ((state.isRouted = true ↔ foldLongS s.logFormat ∈ ["json", "structured"]) ↔
              s.logFormat ∉ ["jſon", "ſtructured"]))) ∧
    ∀ given, validate w given = .ok s →
      (∀ g, given .logLevel = some g →
        ∃ text, g.toData = .text text ∧ s.logLevel = Text.upper text) ∧
      (∀ g, given .logFormat = some g →
        ∃ text, g.toData = .text text ∧ s.logFormat = Text.lower text) := by
  refine ⟨?_, ?_, ?_⟩
  · rintro (⟨entries, h⟩ | ⟨path, h⟩ | ⟨paths, overrides, h⟩ | h | ⟨file?, overrides, h⟩)
    · exact accepted_of_load h
    · exact accepted_of_from_file h
    · exact accepted_of_from_files h
    · exact accepted_of_current h
    · exact accepted_of_for_command h
  · rintro ⟨given, h⟩
    have hlevel := (level_of_valid h).1
    have hformat := (format_of_valid h).1
    have hmem : s.logFormat ∈ formats ++ longFormats :=
      List.mem_append.2 ((fold_mem_formats_iff s.logFormat).1 hformat)
    refine ⟨hlevel, hmem, hformat, fun w' => ?_⟩
    obtain ⟨herror, hok⟩ := configure_of_level hlevel w'
    refine ⟨herror, fun state w'' hconfigure => ?_⟩
    obtain ⟨hnumber, hrenderer, hrouted⟩ := hok state w'' hconfigure
    obtain ⟨hname, hread⟩ := renderer_of_format s.logFormat hmem
    rw [hrenderer, hrouted]
    refine ⟨hnumber, hname, ?_, fun htest => ?_⟩
    · simp [LogState.routedFormats, LogState.isTest]
    · rw [htest, Bool.or_false, List.contains_iff_mem]
      exact hread
  · intro given h
    exact ⟨(level_of_valid h).2, (format_of_valid h).2⟩

/-- `bareWorld` holds nothing. -/
def bareWorld : World :=
  ⟨.directory [], [], [], ⟨[], [], []⟩, .usual⟩

/-- `logging level format` is settings that only say how to log. -/
def logging (level format : String) : Settings :=
  { default ⟨.root, []⟩ with logLevel := level, logFormat := format }

/-- A level is recognised by a letter without its dot, and a format in mixed case. -/
theorem logging_settings_usable_mixed :
    load bareWorld [("log_level", .data (.text "ınfo")),
        ("log_format", .data (.text "Structured"))] = .ok (logging "INFO" "structured") ∧
      Accepted bareWorld (logging "INFO" "structured") ∧ "INFO" ∈ levels ∧
      LogState.configure bareWorld (logging "INFO" "structured") =
        .ok (⟨20, .structured, true, none, false⟩, bareWorld) ∧
      LogState.level? "INFO" = some 20 ∧
      (Renderer.structured.name = foldLongS "structured" ↔
        "structured" ∉ ["jſon", "ſtructured"]) := by
  obtain ⟨haccepted, husable, -⟩ :=
    logging_settings_usable bareWorld (logging "INFO" "structured")
  have hload : load bareWorld [("log_level", .data (.text "ınfo")),
      ("log_format", .data (.text "Structured"))] = .ok (logging "INFO" "structured") := rfl
  have hs : Accepted bareWorld (logging "INFO" "structured") := haccepted (.inl ⟨_, hload⟩)
  obtain ⟨hlevel, -, -, hlogging⟩ := husable hs
  have hconfigure : LogState.configure bareWorld (logging "INFO" "structured") =
      .ok (⟨20, .structured, true, none, false⟩, bareWorld) := rfl
  obtain ⟨hnumber, hrenderer, -⟩ := (hlogging bareWorld).2 _ _ hconfigure
  exact ⟨hload, hs, hlevel, hconfigure, hnumber, hrenderer⟩

/-- A format with a long s is accepted as it is, and told to a reader instead of a machine. -/
theorem long_format_accepted :
    load bareWorld [("log_format", .data (.text "jſon"))] = .ok (logging "WARNING" "jſon") ∧
      (logging "WARNING" "jſon").logFormat ∉ formats ∧
      LogState.configure bareWorld (logging "WARNING" "jſon") =
        .ok (⟨30, .console, false, none, false⟩, bareWorld) :=
  ⟨rfl, by decide, rfl⟩

end SceneLint.Settings
