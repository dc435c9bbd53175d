import SceneLint.Proofs.Json.Fields
import SceneLint.Proofs.Results
import SceneLint.Proofs.Settings.Validation
import SceneLint.Settings.Load

/-!
# Where the value of a field comes from

The sources of a field are an override, the files, the environment and the environment file.
`sources` lists what they give, the one that counts first in front; the name of a field may be
written in any case, so the first two are asked for one spelling of it. `from_files_field` says that
each field of loaded settings is what it makes of the first value in this list, for a spelling that
the entries use if they use any, and for the name of the field itself if they use it.
-/

namespace SceneLint.Settings

/-! ## What each source gives -/

/-- `override? overrides k` is the value that overrides give under a name; a null is none. -/
def override? (overrides : List Entry) (k : String) : Option Given :=
  lastField? k (overrides.filter fun entry => isGiven entry.2)

/-- `valueOf? k entries` is the last value of a mapping under a key. -/
def valueOf? (k : String) : List (Data × Data) → Option Data
  | [] => none
  | (.text name, value) :: entries => valueOf? k entries <|> if name = k then some value else none
  | _ :: entries => valueOf? k entries

/-- `inFiles? w paths k` is the value of a key in the last file that has it. -/
def inFiles? (w : World) (paths : List FilePath) (k : String) : Option Data :=
  paths.reverse.findSome? fun path => (ConfigFile.read w path).toOption.bind (valueOf? k)

/-- `fromVariables? host origin assigned f` is the value that variables give to a field. -/
def fromVariables? (host : Host) (origin : SettingsOrigin)
    (assigned : List (String × Option String)) (f : Setting) : Option Given :=
  (lastNamed? (variableName f) assigned).join.bind fun text =>
    (readVariable host origin f text).toOption.join

/-- `inEnvironment? w f` is the value that the environment gives to a field. -/
def inEnvironment? (w : World) (f : Setting) : Option Given :=
  fromVariables? w.host .environment (environmentVariables w) f

/-- `inEnvironmentFile? w f` is the value that the environment file gives to a field. -/
def inEnvironmentFile? (w : World) (f : Setting) : Option Given :=
  (fileVariables w).toOption.bind fun assigned =>
    fromVariables? w.host .environmentFile assigned f

/-- `sources w paths overrides f k` is what the sources give to the field `f` of which the name is
written `k`, the one that counts first in front. -/
def sources (w : World) (paths : List FilePath) (overrides : List Entry) (f : Setting)
    (k : String) : List (Option Given) :=
  [override? overrides k, (inFiles? w paths k).map .data, inEnvironment? w f,
    inEnvironmentFile? w f]

/-- `IsNamed w paths overrides k` says that an override or a file gives a value under a name. -/
def IsNamed (w : World) (paths : List FilePath) (overrides : List Entry) (k : String) : Prop :=
  (override? overrides k).isSome = true ∨ (inFiles? w paths k).isSome = true

/-! ## Files -/

variable {w : World} {paths : List FilePath} {overrides : List Entry} {s : Settings}

/-- Later entries count before earlier ones. -/
theorem value_of_append (k : String) (entries others : List (Data × Data)) :
    valueOf? k (entries ++ others) = (valueOf? k others <|> valueOf? k entries) := by
  induction entries with
  | nil => simp [valueOf?]
  | cons entry entries ih =>
      obtain ⟨key, value⟩ := entry
      cases key with
      | text name => simp [valueOf?, ih, Option.or_assoc]
      | _ => simp [valueOf?, ih]

/-- Entries whose keys are texts give what the mapping gave. -/
theorem last_field_named {entries : List (Data × Data)} {named : List Entry}
    (h : namedEntries entries = .ok named) (k : String) :
    lastField? k named = (valueOf? k entries).map Given.data := by
  induction entries generalizing named with
  | nil =>
      cases h
      rfl
  | cons entry entries ih =>
      obtain ⟨key, value⟩ := entry
      cases key with
      | text name =>
          obtain ⟨others, hothers, h⟩ := bind_eq_ok_iff.1 h
          cases h
          rw [last_field_cons, ih hothers, valueOf?]
          by_cases hname : name = k <;> cases valueOf? k entries <;> simp [hname]
      | _ => cases h

/-- A file that does not exist is missing. -/
theorem read_of_not_has {path : FilePath} (h : w.has path = .ok false) :
    ConfigFile.read w path = .error (ConfigFile.missing path) := by
  simp [ConfigFile.read, h, Failure.answered, throw, throwThe, MonadExceptOf.throw, bind,
    Except.bind]

/-- The entries of files are those of the first file, if it exists, and those of the others. -/
theorem read_all_cons {path : FilePath} {entries : List (Data × Data)}
    (h : readAll w (path :: paths) = .ok entries) :
    ∃ first others, readAll w paths = .ok others ∧ entries = first ++ others ∧
      ∀ k, valueOf? k first = (ConfigFile.read w path).toOption.bind (valueOf? k) := by
  rw [readAll] at h
  split at h
  · next first hread =>
      obtain ⟨_, hfirst, h⟩ := bind_eq_ok_iff.1 h
      cases hfirst
      obtain ⟨others, hothers, h⟩ := bind_eq_ok_iff.1 h
      cases h
      exact ⟨first, others, hothers, rfl, fun k => by rw [hread]; rfl⟩
  · next hread =>
      obtain ⟨_, hfirst, h⟩ := bind_eq_ok_iff.1 h
      cases hfirst
      obtain ⟨others, hothers, h⟩ := bind_eq_ok_iff.1 h
      cases h
      exact ⟨[], others, hothers, rfl, fun k => by rw [hread]; rfl⟩
  · cases h

/-- The entries of all files give what the last file that has a key gives. -/
theorem value_of_read_all {entries : List (Data × Data)} (h : readAll w paths = .ok entries)
    (k : String) : valueOf? k entries = inFiles? w paths k := by
  induction paths generalizing entries with
  | nil =>
      cases h
      rfl
  | cons path paths ih =>
      obtain ⟨first, others, hothers, rfl, hfirst⟩ := read_all_cons h
      rw [value_of_append, ih hothers, hfirst, inFiles?, inFiles?, List.reverse_cons,
        List.findSome?_append]
      simp

/-- Files that do not exist have no influence. -/
theorem read_all_filter_absent (w : World) (paths : List FilePath) :
    readAll w (paths.filter fun path => !isAbsent w path) = readAll w paths := by
  induction paths with
  | nil => rfl
  | cons path paths ih =>
      cases habsent : isAbsent w path with
      | false => rw [List.filter_cons_of_pos (by simp [habsent]), readAll, readAll, ih]
      | true =>
          have hhas : w.has path = .ok false := by
            rw [isAbsent] at habsent
            split at habsent
            · assumption
            · cases habsent
          rw [List.filter_cons_of_neg (by simp [habsent]), ih, readAll, read_of_not_has hhas]
          cases readAll w paths <;> rfl

/-! ## Entries -/

/-- The entries that count give, under each name, the override or else what the files give. -/
theorem get_field_entries {entries : List (Data × Data)} {named : List Entry}
    (hread : readAll w paths = .ok entries) (hnamed : namedEntries entries = .ok named)
    (overrides : List Entry) (k : String) :
    getField? k (collectFields (named ++ overrides.filter fun entry => isGiven entry.2)) =
      (override? overrides k <|> (inFiles? w paths k).map .data) := by
  rw [get_field_collect_fields, last_field_append, last_field_named hnamed, value_of_read_all hread,
    override?]

/-- The names of fields are in lower case. -/
theorem lower_key (f : Setting) : Text.lower f.key = f.key := by
  cases f <;> decide

/-- The value under a name in any case is the value under one spelling of it, which is used if any
is. -/
theorem last_named_collected (name : String) (hname : Text.lower name = name)
    (fields : List Entry) :
    ∃ k, Text.lower k = name ∧
      lastNamed? name (collectFields fields) = getField? k (collectFields fields) ∧
      (getField? k (collectFields fields) = none →
        ∀ k', Text.lower k' = name → getField? k' (collectFields fields) = none) := by
  cases hfind : (collectFields fields).reverse.find? (fun entry => Text.lower entry.1 == name) with
  | some entry =>
      have hlower : Text.lower entry.1 = name := by simpa using List.find?_some hfind
      have hmem : entry ∈ collectFields fields := by
        simpa using List.mem_of_find?_eq_some hfind
      have hget := get_field_of_mem (collect_fields_nodup fields) hmem
      refine ⟨entry.1, hlower, ?_, fun hnone => ?_⟩
      · rw [lastNamed?, hfind, hget]
        rfl
      · rw [hget] at hnone
        cases hnone
  | none =>
      have habsent : ∀ k', Text.lower k' = name → getField? k' (collectFields fields) = none := by
        intro k' hk'
        rw [Option.eq_none_iff_forall_not_mem]
        intro value hvalue
        have hmem := mem_of_get_field hvalue
        rw [List.find?_eq_none] at hfind
        exact hfind _ (List.mem_reverse.2 hmem) (by simpa using hk')
      exact ⟨name, hname, by rw [lastNamed?, hfind, habsent name hname]; rfl, fun _ => habsent⟩

/-- The last value given under a name is the one that collecting keeps. -/
theorem last_field_collected {α : Type} (name : String) (fields : List (String × α)) :
    lastField? name (collectFields fields) = getField? name (collectFields fields) := by
  rw [← get_field_collect_fields, collect_fields_of_nodup (collect_fields_nodup fields)]

/-- The value that counts for a name is the value under one spelling of it, which is used if any is,
and which is the name itself if that is used. -/
theorem named_collected (name : String) (hname : Text.lower name = name) (fields : List Entry) :
    ∃ k, Text.lower k = name ∧
      named? name (collectFields fields) = getField? k (collectFields fields) ∧
      (getField? k (collectFields fields) = none →
        ∀ k', Text.lower k' = name → getField? k' (collectFields fields) = none) ∧
      ((getField? name (collectFields fields)).isSome = true → k = name) := by
  rw [named?, last_field_collected]
  cases hown : getField? name (collectFields fields) with
  | some value =>
      refine ⟨name, hname, hown.symm, fun hnone => ?_, fun _ => rfl⟩
      rw [hown] at hnone
      cases hnone
  | none =>
      obtain ⟨k, hk, hlast, habsent⟩ := last_named_collected name hname fields
      exact ⟨k, hk, hlast, habsent, nofun⟩

/-! ## Variables -/

/-- Every field is among the fields, once. -/
theorem mem_all (f : Setting) : f ∈ Setting.all := by
  cases f <;> decide

/-- The values of variables are that of the first field, if it has one, and those of the others. -/
theorem gather_cons {host : Host} {origin : SettingsOrigin}
    {assigned : List (String × Option String)} {f : Setting} {settings : List Setting}
    {found : List (Setting × Given)}
    (h : gather host origin assigned (f :: settings) = .ok found) :
    ∃ others, gather host origin assigned settings = .ok others ∧
      found = match fromVariables? host origin assigned f with
        | some g => (f, g) :: others
        | none => others := by
  rw [gather] at h
  split at h
  · next text htext =>
      obtain ⟨value, hvalue, h⟩ := bind_eq_ok_iff.1 h
      obtain ⟨others, hothers, h⟩ := bind_eq_ok_iff.1 h
      have hgiven : fromVariables? host origin assigned f = value := by
        simp [fromVariables?, htext, hvalue, Except.toOption]
      cases h
      subst hgiven
      exact ⟨others, hothers, rfl⟩
  · next htext =>
      obtain ⟨_, hvalue, h⟩ := bind_eq_ok_iff.1 h
      cases hvalue
      obtain ⟨others, hothers, h⟩ := bind_eq_ok_iff.1 h
      have hgiven : fromVariables? host origin assigned f = none := by simp [fromVariables?, htext]
      cases h
      exact ⟨others, hothers, by rw [hgiven]⟩

/-- Variables give to each field what its own variable gives. -/
theorem lookup_gather {host : Host} {origin : SettingsOrigin}
    {assigned : List (String × Option String)} {settings : List Setting}
    (hnodup : settings.Nodup) {found : List (Setting × Given)}
    (h : gather host origin assigned settings = .ok found) (f : Setting) :
    found.lookup f = if f ∈ settings then fromVariables? host origin assigned f else none := by
  induction settings generalizing found with
  | nil =>
      cases h
      rfl
  | cons setting settings ih =>
      obtain ⟨others, hothers, rfl⟩ := gather_cons h
      rw [List.nodup_cons] at hnodup
      have hrest := ih hnodup.2 hothers
      by_cases hf : f = setting
      · subst hf
        rw [if_neg hnodup.1] at hrest
        cases hvalue : fromVariables? host origin assigned f <;> simp [hrest]
      · have hlookup : ∀ g, List.lookup f ((setting, g) :: others) = others.lookup f := by
          intro g
          rw [List.lookup_cons, beq_false_of_ne hf]
        cases hvalue : fromVariables? host origin assigned setting <;> simp [hlookup, hrest, hf]

/-- Settings are loaded if the variables can be read and every field is valid. -/
theorem load_eq_ok_iff {entries : List Entry} : load w entries = .ok s ↔
    ∃ assigned environment file, fileVariables w = .ok assigned ∧
      gather w.host .environment (environmentVariables w) Setting.all = .ok environment ∧
      gather w.host .environmentFile assigned Setting.all = .ok file ∧
      ∀ f, checkField w f (firstGiven entries environment file f) = .ok (s.get f) := by
  simp only [load, bind_eq_ok_iff, validate_eq_ok_iff]
  constructor
  · rintro ⟨assigned, hassigned, environment, henvironment, file, hfile, h⟩
    exact ⟨assigned, environment, file, hassigned, henvironment, hfile, h⟩
  · rintro ⟨assigned, environment, file, hassigned, henvironment, hfile, h⟩
    exact ⟨assigned, hassigned, environment, henvironment, file, hfile, h⟩

/-- Loaded settings are valid for the first value that counts for each field. -/
theorem load_field {entries : List Entry} (h : load w entries = .ok s) (f : Setting) :
    checkField w f
      (named? f.key entries <|> inEnvironment? w f <|> inEnvironmentFile? w f) =
        .ok (s.get f) := by
  obtain ⟨assigned, environment, file, hassigned, henvironment, hfile, hfields⟩ :=
    load_eq_ok_iff.1 h
  have hfield := hfields f
  have hnodup : Setting.all.Nodup := by decide
  rw [firstGiven, lookup_gather hnodup henvironment, lookup_gather hnodup hfile,
    if_pos (mem_all f), if_pos (mem_all f)] at hfield
  rw [inEnvironmentFile?, hassigned]
  exact hfield

/-- The first value that the sources give. -/
theorem first_source (f : Setting) (k : String) :
    (sources w paths overrides f k).findSome? id =
      ((override? overrides k <|> (inFiles? w paths k).map .data) <|>
        inEnvironment? w f <|> inEnvironmentFile? w f) := by
  rw [sources]
  cases override? overrides k <;> cases inFiles? w paths k <;> cases inEnvironment? w f <;>
    cases inEnvironmentFile? w f <;> rfl

/-- Each field of loaded settings is what it makes of the first value that its sources give, for a
spelling of its name that entries use if they use any, and for the name itself if they use it. -/
theorem from_files_field (h : fromFiles w paths overrides = .ok s) (f : Setting) :
    ∃ k, Text.lower k = f.key ∧
      checkField w f ((sources w paths overrides f k).findSome? id) = .ok (s.get f) ∧
      (¬ IsNamed w paths overrides k →
        ∀ k', Text.lower k' = f.key → ¬ IsNamed w paths overrides k') ∧
      (IsNamed w paths overrides f.key → k = f.key) := by
  obtain ⟨entries, hread, h⟩ := bind_eq_ok_iff.1 h
  obtain ⟨named, hnamed, h⟩ := bind_eq_ok_iff.1 h
  obtain ⟨k, hk, hvalue, habsent, hown⟩ := named_collected f.key (lower_key f)
    (named ++ overrides.filter fun entry => isGiven entry.2)
  have hget := get_field_entries hread hnamed overrides
  have hnone : ∀ k', getField? k' (collectFields
      (named ++ overrides.filter fun entry => isGiven entry.2)) = none ↔
        ¬ IsNamed w paths overrides k' := by
    intro k'
    simp [hget, IsNamed, Option.or_eq_none_iff]
  refine ⟨k, hk, ?_, ?_, fun hnamed => hown ?_⟩
  · have hfield := load_field h f
    rwa [hvalue, hget, ← first_source] at hfield
  · simpa only [hnone] using habsent
  · rw [Option.isSome_iff_ne_none]
    exact fun hnot => (hnone f.key).1 hnot hnamed

end SceneLint.Settings
