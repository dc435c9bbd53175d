import SceneLint.Proofs.Command.ExitCode
import SceneLint.Proofs.Json.RoundTrip

/-!
# What a check prints for machines

A check that is asked for JSON prints one document and a line feed, whatever comes of it. The
document is a failure or a summary: `Outcome.errorJson` has a field `success`, which no summary has,
and `Summary.ofJson?` reads a summary back, text for text (`of_json_to_json`).
`check_json_output` is the main statement: the document tells the exit code, and the exit code tells
what the document is.
-/

namespace SceneLint

/-! ## Reading a summary -/

/-- `Json.text? v` is the text that `v` is. -/
def Json.text? : Json → Option String
  | .text s => some s
  | _ => none

/-- `Json.count? v` is the number of things that `v` is. -/
def Json.count? : Json → Option Nat
  | .int (.ofNat n) => some n
  | _ => none

/-- `Json.items? v` is the items of the list that `v` is. -/
def Json.items? : Json → Option (List Json)
  | .list items => some items
  | _ => none

/-- `Problem.ofJson? v` reads a problem. -/
def Problem.ofJson? (v : Json) : Option Problem := do
  let file ← v.field? "file" >>= Json.text?
  let path ← v.field? "path" >>= Json.text?
  let code ← v.field? "code" >>= Json.text?
  let message ← v.field? "message" >>= Json.text?
  return ⟨file, path, code, message⟩

/-- `Problem.listOfJson? v` reads a list of problems. -/
def Problem.listOfJson? (v : Json) : Option (List Problem) := do
  let items ← v.items?
  items.mapM Problem.ofJson?

/-- `Summary.ofJson? v` reads a summary. -/
def Summary.ofJson? (v : Json) : Option Summary := do
  let root ← v.field? "project_root" >>= Json.text?
  let scripts ← v.field? "scripts_checked" >>= Json.count?
  let scenes ← v.field? "scenes_checked" >>= Json.count?
  let general ← v.field? "general_problems" >>= Problem.listOfJson?
  let script ← v.field? "script_problems" >>= Problem.listOfJson?
  let scene ← v.field? "scene_problems" >>= Problem.listOfJson?
  return ⟨root, scripts, scenes, general, script, scene⟩

/-- A problem reads back. -/
theorem Problem.of_json_to_json (p : Problem) : ofJson? p.toJson = some p := rfl

/-- A list of problems reads back. -/
theorem Problem.list_of_json_to_json (problems : List Problem) :
    listOfJson? (.list (problems.map toJson)) = some problems := by
  show (problems.map toJson).mapM ofJson? = some problems
  induction problems with
  | nil => rfl
  | cons p problems ih =>
      rw [List.map_cons, List.mapM_cons, of_json_to_json, ih]
      rfl

/-- A summary reads back. -/
theorem Summary.of_json_to_json (s : Summary) : ofJson? s.toJson = some s := by
  have hgeneral : s.toJson.field? "general_problems" >>= Problem.listOfJson? = some s.general :=
    Problem.list_of_json_to_json s.general
  have hscript : s.toJson.field? "script_problems" >>= Problem.listOfJson? = some s.script :=
    Problem.list_of_json_to_json s.script
  have hscene : s.toJson.field? "scene_problems" >>= Problem.listOfJson? = some s.scene :=
    Problem.list_of_json_to_json s.scene
  rw [ofJson?, hgeneral, hscript, hscene]
  rfl

/-! ## What is printed is plain -/

/-- A problem is plain and has no number in it. -/
theorem Problem.to_json_plain (p : Problem) (limit : Nat) :
    p.toJson.IsPlain ∧ p.toJson.fits limit = true := by
  refine ⟨.object (by simp) ?_, rfl⟩
  simp only [List.forall_mem_cons, List.not_mem_nil]
  exact ⟨.text _, .text _, .text _, .text _, by simp⟩

/-- A list of problems is plain and has no number in it. -/
theorem Problem.list_plain (problems : List Problem) (limit : Nat) :
    (Json.list (problems.map toJson)).IsPlain ∧
      (Json.list (problems.map toJson)).fits limit = true := by
  rw [Json.fits, Json.fit_items_iff]
  constructor
  · exact .list (List.forall_mem_map.2 fun p _ => (p.to_json_plain limit).1)
  · exact List.forall_mem_map.2 fun p _ => (p.to_json_plain limit).2

/-- A summary is plain. -/
theorem Summary.to_json_plain (s : Summary) : s.toJson.IsPlain := by
  refine .object (by simp) ?_
  simp only [List.forall_mem_cons, List.not_mem_nil]
  exact ⟨.text _, .int _, .int _, (Problem.list_plain _ 0).1, (Problem.list_plain _ 0).1,
    (Problem.list_plain _ 0).1, by simp⟩

/-- The numbers of a summary are the two counts. -/
theorem Summary.to_json_fits {s : Summary} {limit : Nat} (hscripts : s.scripts < Nat.pow 10 limit)
    (hscenes : s.scenes < Nat.pow 10 limit) : s.toJson.fits limit = true := by
  rw [toJson, Json.fits, Json.fit_fields_iff]
  simp only [List.forall_mem_cons, List.not_mem_nil]
  exact ⟨rfl, decide_eq_true hscripts, decide_eq_true hscenes, (Problem.list_plain _ limit).2,
    (Problem.list_plain _ limit).2, (Problem.list_plain _ limit).2, by simp⟩

/-- A failure is plain, and its number is the exit code. -/
theorem Outcome.error_json_plain (message : String) {limit : Nat} (hlimit : 0 < limit) :
    (errorJson message 2).IsPlain ∧ (errorJson message 2).fits limit = true := by
  constructor
  · refine .object (by simp) ?_
    simp only [List.forall_mem_cons, List.not_mem_nil]
    exact ⟨.bool _, .text _, .int _, by simp⟩
  · have htwo : 2 < Nat.pow 10 limit :=
      Nat.lt_of_lt_of_le (by decide) (Nat.pow_le_pow_right (by decide) hlimit)
    simpa [errorJson, Json.fits, Json.fitFields] using htwo

namespace Command

variable {w : World} {log : LogState} {o : CheckOptions}

/-! ## Running a check -/

/-- `Faults w o f` says that a check ends with the failure `f`: the settings cannot be had, or the
project cannot be checked. -/
inductive Faults (w : World) (o : CheckOptions) : Failure → Prop where
  | settings {f : Failure} (h : checkSettings w o = .error f) : Faults w o f
  | project {s : Settings} {e : CheckFault} (hs : checkSettings w o = .ok s)
      (h : Project.check w s none = .error e) : Faults w o (.ofCheck e)

/-- `Prints w o r` says that a check has the report `r`. -/
def Prints (w : World) (o : CheckOptions) (r : Report) : Prop :=
  ∃ s, checkSettings w o = .ok s ∧ Project.check w s none = .ok r

/-- A check has a failure, which it tells, or a report, which it prints. -/
theorem check_cases (w : World) (log : LogState) (o : CheckOptions) :
    (∃ f events, Faults w o f ∧ check w log o = fail w.host log o.verbose o.json events f) ∨
      ∃ r events, Prints w o r ∧ check w log o = reported w.host o r.summary events := by
  cases hs : checkSettings w o with
  | error f => exact .inl ⟨f, [], .settings hs, by rw [check, hs]⟩
  | ok s =>
      cases hcheck : Project.check w s none with
      | error e => exact .inl ⟨_, _, .project hs hcheck, by rw [check, hs]; simp only [hcheck]; rfl⟩
      | ok r => exact .inr ⟨r, _, ⟨s, hs, hcheck⟩, by rw [check, hs]; simp only [hcheck]; rfl⟩

/-- A failure told as JSON is one document and the fatal code. -/
theorem fail_json (host : Host) (log : LogState) (verbose : Bool) (events : List Event)
    (f : Failure) :
    (fail host log verbose true events f).stdout =
        (Outcome.errorJson f.shortMessage 2).render ++ "\n" ∧
      (fail host log verbose true events f).exitCode = 2 ∧
      (fail host log verbose true events f).crash = none := by
  simp [fail, Outcome.ofFailure, Outcome.logged, Outcome.fatalCode]

/-- A text with one rendered document and a line feed reads as that document. -/
theorem parse_rendered {v : Json} {limit : Nat} (hlimit : 0 < limit) (hplain : v.IsPlain)
    (hfits : v.fits limit = true) : Json.parseWith limit (v.render ++ "\n") = .ok v := by
  have hparse := Json.parse_with_write Json.Layout.indented_spaced hlimit hplain hfits
    ['\n'] (List.forall_mem_singleton.2 rfl)
  rwa [String.ofList_append] at hparse

/-- The problems of a report decide the exit code. -/
theorem check_code_eq (o : CheckOptions) (s : Summary) :
    checkCode o s =
      if (s.general ≠ [] ∨ s.script ≠ [] ∨ s.scene ≠ []) ∧ o.exitZero = false then 1 else 0 := by
  have htotal : 0 < s.total ↔ s.general ≠ [] ∨ s.script ≠ [] ∨ s.scene ≠ [] := by
    simp only [← List.length_pos_iff, Summary.total]
    omega
  simp [checkCode, Summary.hasProblems, problemsCode, htotal]

/-- What a check prints for machines. It is one document and a line feed, which reads back in every
reader that takes numerals as long as the two counts, and the check never breaks off. The document
says `success` is false and `code` is 2 exactly if the exit code is 2; it is then the failure of the
check. Otherwise it is the summary of the report, which reads back text for text, and the exit code
is 1 if one of its three lists has a problem that counts, and else 0. -/
theorem check_json_output (w : World) (log : LogState) {o : CheckOptions} (hjson : o.json = true) :
    ∃ v : Json, (check w log o).stdout = v.render ++ "\n" ∧
      (∃ least, ∀ limit, least ≤ limit → Json.parseWith limit (check w log o).stdout = .ok v) ∧
      (v.fits LongNumeral.digitLimit = true → Json.parse (check w log o).stdout = .ok v) ∧
      (check w log o).crash = none ∧
      ((check w log o).exitCode = 2 ↔
        v.field? "success" = some (.bool false) ∧ v.field? "code" = some (.int 2)) ∧
      ((check w log o).exitCode = 2 →
        ∃ f, Faults w o f ∧ v = Outcome.errorJson f.shortMessage 2) ∧
      ((check w log o).exitCode ≠ 2 →
        ∃ r, Prints w o r ∧ v = r.summary.toJson ∧ Summary.ofJson? v = some r.summary ∧
          (check w log o).exitCode =
            if (r.general ≠ [] ∨ r.script ≠ [] ∨ r.scene ≠ []) ∧ o.exitZero = false then 1
            else 0) := by
  obtain ⟨f, events, hfaults, hcheck⟩ | ⟨r, events, hprints, hcheck⟩ := check_cases w log o
  · obtain ⟨hstdout, hcode, hcrash⟩ := fail_json w.host log o.verbose events f
    rw [hcheck, hjson, hstdout, hcode]
    have hparse : ∀ limit, 1 ≤ limit → Json.parseWith limit _ = .ok _ := fun limit hlimit =>
      parse_rendered hlimit (Outcome.error_json_plain f.shortMessage hlimit).1
        (Outcome.error_json_plain f.shortMessage hlimit).2
    refine ⟨_, rfl, ⟨1, hparse⟩, fun _ => hparse _ (by decide), hcrash, ?_, ?_, ?_⟩
    · exact ⟨fun _ => ⟨rfl, rfl⟩, fun _ => rfl⟩
    · exact fun _ => ⟨f, hfaults, rfl⟩
    · exact fun hne => absurd rfl hne
  · have hreported : reported w.host o r.summary events =
        ⟨checkCode o r.summary, r.summary.toJson.render ++ "\n", "", none, events⟩ := by
      rw [reported, if_pos hjson]
    have hcode : checkCode o r.summary ≠ 2 := by
      rw [checkCode]
      split <;> decide
    rw [hcheck, hreported]
    refine ⟨_, rfl, ⟨r.summary.scripts + r.summary.scenes + 1, ?_⟩, ?_, rfl, ?_, ?_, ?_⟩
    · intro limit hlimit
      have hpow : limit < Nat.pow 10 limit := Nat.lt_pow_self (by decide)
      exact parse_rendered (by omega) r.summary.to_json_plain
        (Summary.to_json_fits (by omega) (by omega))
    · intro hfits
      exact parse_rendered (by decide) r.summary.to_json_plain hfits
    · have hsuccess : r.summary.toJson.field? "success" = none := rfl
      rw [hsuccess]
      simp [hcode]
    · exact fun heq => absurd heq hcode
    · exact fun _ => ⟨r, hprints, rfl, r.summary.of_json_to_json, check_code_eq o r.summary⟩

/-- `quotedWorld` holds a project with an empty script that has a quote in its name. -/
def quotedWorld : World :=
  ⟨.directory [("game", .directory [("a\"é.gd", .file [])])], [("HOME", "/")], [],
    ⟨[], [], []⟩, .usual⟩

/-- A check of the project with a quote in a name finds a problem, and prints its summary as a
document that reads back. -/
theorem check_json_output_quoted :
    (check quotedWorld warnings { checkOf "/game" with json := true }).exitCode = 1 ∧
      ∃ v r least, Prints quotedWorld { checkOf "/game" with json := true } r ∧
        (∀ limit, least ≤ limit → Json.parseWith limit
          (check quotedWorld warnings { checkOf "/game" with json := true }).stdout = .ok v) ∧
        Summary.ofJson? v = some r.summary := by
  have hcode : (check quotedWorld warnings { checkOf "/game" with json := true }).exitCode = 1 := by
    decide +kernel
  obtain ⟨v, -, ⟨least, hparse⟩, -, -, -, -, hreport⟩ :=
    check_json_output quotedWorld warnings (o := { checkOf "/game" with json := true }) rfl
  obtain ⟨r, hprints, -, hsummary, -⟩ := hreport (by rw [hcode]; decide)
  exact ⟨hcode, v, r, least, hprints, hparse, hsummary⟩

end Command

end SceneLint
