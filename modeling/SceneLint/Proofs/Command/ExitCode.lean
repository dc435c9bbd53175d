import SceneLint.Command.Run
import SceneLint.Proofs.Console.Terminals
import SceneLint.Proofs.Project.Accounting
import SceneLint.Proofs.Project.Summary

/-!
# Exit codes of a check

`Fails w o f` says that a check ends with the failure `f` before it has a report. `check_exit_code`
is the main statement. A check that has a report ends with a code that says whether there were
problems, and never breaks off. A check that fails ends with the fatal code where the failure is
`Tellable`, and breaks off with another code where it is not: its texts are printed as they are, so
one that closes a tag which is not open stops the printing (`check_breaks_off`), as one does that
the terminal refuses; and the trace of an unexpected failure cannot be written to a console log. The
texts of a failure stand in the program's tags (`tagged_failure`), so a failure whose texts hold no
opening bracket can be printed on every terminal, and one whose texts hold no closing tag on every
terminal that takes them.
-/

namespace SceneLint

open Console (Admits IsFixed NoClosing Span Tagged)

namespace Outcome

/-! ## Printing a failure -/

/-- `toldTexts host verbose f` is the texts that are printed of a failure, as they are. -/
def toldTexts (host : Host) (verbose : Bool) (f : Failure) : List String :=
  match f with
  | .diagnostic d =>
      d.message :: d.hint?.toList ++
        if verbose then (d.details?.getD []).flatMap fun detail => [detail.1, detail.2.display]
        else []
  | f =>
      f.message ::
        if verbose && isUnexpected f then [host.trace f.kindName f.message] else []

variable {P : List Char → Prop} {host : Host} {verbose : Bool} {f : Failure}

/-- A text in a style, behind fixed words, is in the program's tags. -/
theorem tagged_styled (hP : Admits P) {markup : String} (front name lead text : String)
    (hfront : IsFixed front.toList) (hname : name ∈ Console.styleNames)
    (hlead : IsFixed lead.toList) (htext : P text.toList)
    (hmarkup : markup.toList = (front ++ Span.markup ⟨some name, lead ++ text⟩).toList) :
    Tagged P markup := by
  have hled : P (lead ++ text).toList := by
    rw [String.toList_append]
    exact hP.behind hlead htext
  have htagged := Tagged.styled hfront hname hled (hP.fixed (show IsFixed "".toList by decide))
  rwa [String.append_empty, ← String.toList_inj.1 hmarkup] at htagged

/-- The key and the value of a detail are in the program's tags. -/
theorem tagged_detail (hP : Admits P) {detail : String × Data} (hkey : P detail.1.toList)
    (hvalue : P detail.2.display.toList) : Tagged P (detailMarkup detail) := by
  have hmarkup : detailMarkup detail =
      "  " ++ Span.markup ⟨some "dim", detail.1 ++ ":"⟩ ++ (" " ++ detail.2.display) := by
    apply String.toList_inj.1
    simp [detailMarkup, Span.markup]
  rw [hmarkup]
  refine .styled (by decide) (by decide) ?_ ?_
  · rw [String.toList_append]
    exact hP.before hkey (by decide) (by decide)
  · rw [String.toList_append]
    exact hP.behind (by decide) hvalue

/-- The texts of a diagnostic are in the program's tags. -/
theorem tagged_diagnostic (hP : Admits P) {d : Diagnostic}
    (h : ∀ text ∈ toldTexts host verbose (.diagnostic d), P text.toList) :
    ∀ markup ∈ failureMarkup host verbose (.diagnostic d), Tagged P markup := by
  simp only [toldTexts, List.cons_append, List.forall_mem_cons, List.forall_mem_append] at h
  obtain ⟨hmessage, hhint, hdetails⟩ := h
  simp only [failureMarkup, List.forall_mem_append, List.forall_mem_singleton]
  refine ⟨⟨?_, ?_⟩, ?_⟩
  · exact tagged_styled hP "" "red" "✗ " d.message (by decide) (by decide) (by decide) hmessage
      (by simp [Span.markup])
  · cases hsome : d.hint? with
    | none => simp
    | some hint =>
        rw [List.forall_mem_singleton]
        have htext : P hint.toList := hhint hint (by simp [hsome])
        exact tagged_styled hP "" "yellow" "→ " hint (by decide) (by decide) (by decide) htext
          (by simp [Span.markup])
  · cases hsome : d.details? with
    | none => simp
    | some details =>
        cases verbose with
        | false => simp
        | true =>
            simp only [if_true, List.forall_mem_cons, List.forall_mem_map]
            constructor
            · exact tagged_styled hP "\n" "dim" "Details:" "" (by decide) (by decide) (by decide)
                (hP.fixed (by decide)) (by simp [Span.markup])
            · intro detail hdetail
              have hboth : ∀ text ∈ [detail.1, detail.2.display], P text.toList := by
                intro text htext
                apply hdetails
                rw [if_pos rfl, hsome, Option.getD_some, List.mem_flatMap]
                exact ⟨detail, hdetail, htext⟩
              exact tagged_detail hP (hboth _ (by simp)) (hboth _ (by simp))

/-- The texts of an unexpected failure are in the program's tags, or stand alone. -/
theorem tagged_unexpected (hP : Admits P) {message : String} {trace : String}
    (hmessage : P message.toList) (htrace : verbose = true → P trace.toList) :
    ∀ markup ∈ ("[red]✗ Unexpected error: " ++ message ++ "[/red]") ::
      if verbose then ["\n[dim]Full traceback:[/dim]", trace]
      else ["[dim]Run with --debug for full error details[/dim]"], Tagged P markup := by
  rw [List.forall_mem_cons]
  constructor
  · exact tagged_styled hP "" "red" "✗ Unexpected error: " message (by decide) (by decide)
      (by decide) hmessage (by simp [Span.markup])
  · cases verbose with
    | true =>
        simp only [if_true, List.forall_mem_cons]
        refine ⟨?_, .plain (htrace rfl), by simp⟩
        exact tagged_styled hP "\n" "dim" "Full traceback:" "" (by decide) (by decide) (by decide)
          (hP.fixed (by decide)) (by simp [Span.markup])
    | false =>
        simp only [Bool.false_eq_true, if_false, List.forall_mem_singleton]
        exact tagged_styled hP "" "dim" "Run with --debug for full error details" "" (by decide)
          (by decide) (by decide) (hP.fixed (by decide)) (by simp [Span.markup])

/-- The texts of a failure are in the program's tags, or stand alone. -/
theorem tagged_failure (hP : Admits P)
    (h : ∀ text ∈ toldTexts host verbose f, P text.toList) :
    ∀ markup ∈ failureMarkup host verbose f, Tagged P markup := by
  unfold failureMarkup
  split
  · exact tagged_diagnostic hP h
  · next message field =>
      have hmessage : P message.toList := h message List.mem_cons_self
      rw [List.forall_mem_singleton]
      exact tagged_styled hP "" "red" "✗ Validation Error: " message (by decide) (by decide)
        (by decide) hmessage (by simp [Span.markup])
  · next hdiagnostic hinput =>
      have htold : toldTexts host verbose f = f.message ::
          if verbose && isUnexpected f then [host.trace f.kindName f.message] else [] := by
        unfold toldTexts
        split
        · exact absurd rfl (hdiagnostic _)
        · rfl
      rw [htold, List.forall_mem_cons] at h
      split
      · rw [List.forall_mem_cons, List.forall_mem_singleton]
        refine ⟨?_, ?_⟩
        · exact tagged_styled hP "" "red" "✗ File not found: " f.message (by decide) (by decide)
            (by decide) h.1 (by simp [Span.markup])
        · exact tagged_styled hP "" "yellow" "→ Check that the file path is correct" "" (by decide)
            (by decide) (by decide) (hP.fixed (by decide)) (by simp [Span.markup])
      · next hmissing =>
          refine tagged_unexpected hP h.1 fun hverbose => ?_
          have hunexpected : isUnexpected f = true := by
            unfold isUnexpected
            split
            · exact absurd rfl (hdiagnostic _)
            · exact absurd rfl (hinput _ _)
            · simpa using hmissing
          apply h.2
          simp [hverbose, hunexpected]

/-- What is told of a failure is printed without fault on a terminal that takes it, if no text of it
closes a tag. -/
theorem print_failure {t : Console.Terminal}
    (h : ∀ text ∈ toldTexts host verbose f, NoClosing text.toList)
    (htaken : ∀ markup ∈ failureMarkup host verbose f, t.refusal? markup = none) :
    (Console.printAll t (failureMarkup host verbose f)).fault = none := by
  rw [Console.print_all_fault_eq_none_iff]
  intro markup hmarkup
  have htagged := tagged_failure Console.admits_no_closing h markup hmarkup
  exact ⟨htaken markup hmarkup, Console.printed_of_tagged htagged⟩

/-- What is told of a failure is taken by every terminal, if no text of it holds an opening
bracket. -/
theorem taken_failure (t : Console.Terminal)
    (h : ∀ text ∈ toldTexts host verbose f, '[' ∉ text.toList) :
    ∀ markup ∈ failureMarkup host verbose f, t.refusal? markup = none := by
  intro markup hmarkup
  exact Console.taken_of_tagged t (tagged_failure Console.admits_not_mem_open h markup hmarkup)

end Outcome

namespace Command

variable {w : World} {log : LogState} {o : CheckOptions} {f : Failure}

/-! ## Telling a failure -/

/-- `Tellable w log o f` says that a command can tell a failure: as JSON, or as text that can be
printed and with an event that can be logged. -/
def Tellable (w : World) (log : LogState) (o : CheckOptions) (f : Failure) : Prop :=
  o.json = true ∨
    (Console.printAll w.host.terminal
        (Outcome.failureMarkup w.host o.verbose f)).fault = none ∧
      ¬ (Outcome.isUnexpected f = true ∧ log.isRouted = false ∧ log.allows .error = true)

/-- `Loggable log f` says that the log can write the event of a failure, or leaves it out. -/
def Loggable (log : LogState) (f : Failure) : Prop :=
  Outcome.isUnexpected f = true → log.isRouted = true ∨ log.allows .error = false

/-- A failure of which no text closes a tag can be told on a terminal that takes the texts, if the
log can write its event. -/
theorem tellable_of_no_closing
    (h : ∀ text ∈ Outcome.toldTexts w.host o.verbose f, NoClosing text.toList)
    (htaken : ∀ markup ∈ Outcome.failureMarkup w.host o.verbose f,
      w.host.terminal.refusal? markup = none)
    (hlog : Loggable log f) : Tellable w log o f := by
  refine .inr ⟨Outcome.print_failure h htaken, ?_⟩
  rintro ⟨hunexpected, hrouted, hallows⟩
  rcases hlog hunexpected with hother | hother
  · rw [hother] at hrouted
    cases hrouted
  · rw [hother] at hallows
    cases hallows

/-- A failure of which no text holds an opening bracket can be told on every terminal, if the log
can write its event. -/
theorem tellable_of_not_mem_open
    (h : ∀ text ∈ Outcome.toldTexts w.host o.verbose f, '[' ∉ text.toList)
    (hlog : Loggable log f) : Tellable w log o f :=
  tellable_of_no_closing (fun text htext => Console.no_closing_of_not_mem (h text htext))
    (Outcome.taken_failure w.host.terminal h) hlog

/-- A failure that can be told ends a command with the fatal code. -/
theorem fail_of_tellable (h : Tellable w log o f) (events : List Event) :
    (fail w.host log o.verbose o.json events f).exitCode = 2 ∧
      (fail w.host log o.verbose o.json events f).crash = none := by
  cases hjson : o.json with
  | true => simp [fail, Outcome.ofFailure, Outcome.logged, Outcome.fatalCode]
  | false =>
      rw [Tellable, hjson] at h
      obtain ⟨hprinted, hlog⟩ := h.resolve_left Bool.false_ne_true
      simp only [fail, Outcome.ofFailure, hprinted, Bool.false_eq_true, if_false, Outcome.logged]
      rw [if_neg (by simpa using hlog)]
      exact ⟨rfl, rfl⟩

/-- A failure whose texts cannot be printed breaks a command off with the fault of the text. -/
theorem fail_of_fault {fault : Console.PrintFault} (hjson : o.json = false)
    (hfault : (Console.printAll w.host.terminal
      (Outcome.failureMarkup w.host o.verbose f)).fault = some fault)
    (log : LogState) (events : List Event) :
    (fail w.host log o.verbose o.json events f).exitCode = 1 ∧
      (fail w.host log o.verbose o.json events f).crash = some (.unprintable fault) := by
  simp [fail, Outcome.ofFailure, hjson, hfault, Outcome.logged, Outcome.crashCode]

/-- A failure that cannot be told breaks a command off. -/
theorem fail_of_not_tellable (h : ¬ Tellable w log o f) (events : List Event) :
    (fail w.host log o.verbose o.json events f).exitCode = 1 ∧
      (fail w.host log o.verbose o.json events f).crash.isSome = true := by
  rw [Tellable, not_or, Bool.not_eq_true, not_and, not_not] at h
  obtain ⟨hjson, hlog⟩ := h
  cases hfault : (Console.printAll w.host.terminal
      (Outcome.failureMarkup w.host o.verbose f)).fault with
  | some fault =>
      obtain ⟨hcode, hcrash⟩ := fail_of_fault hjson hfault log events
      exact ⟨hcode, by rw [hcrash]; rfl⟩
  | none =>
      obtain ⟨hunexpected, hrouted, hallows⟩ := hlog hfault
      simp [fail, Outcome.ofFailure, hjson, hfault, Outcome.logged, hunexpected, hrouted, hallows,
        Outcome.crashCode]

/-! ## Running a check -/

/-- `Fails w o f` says that a check ends with a failure before it has a report: the path or the
settings cannot be had, or the project cannot be walked. -/
inductive Fails (w : World) (o : CheckOptions) : Failure → Prop where
  | settings {f : Failure} (h : checkSettings w o = .error f) : Fails w o f
  | discovery {s : Settings} {halt : Halt} (hs : checkSettings w o = .ok s)
      (h : Discovery.discover w s.projectRoot s.scriptExtension s.skipDirs = .error halt) :
      Fails w o (.ofHalt halt)

/-- A check that fails tells the failure. -/
theorem check_of_fails (h : Fails w o f) (log : LogState) :
    ∃ events, check w log o = fail w.host log o.verbose o.json events f := by
  cases h with
  | settings h => exact ⟨[], by rw [check, h]⟩
  | @discovery s halt hs h =>
      have hcheck : Project.check w s none = .error (.discovery halt) :=
        Project.check_of_discover_error h
      exact ⟨_, by rw [check, hs]; simp only [hcheck]; rfl⟩

/-- A check that does not fail has a report, which it prints. -/
theorem check_of_not_fails (hw : w.tree.WellFormed) (h : ∀ f, ¬ Fails w o f) (log : LogState) :
    ∃ s report events, checkSettings w o = .ok s ∧ Project.check w s none = .ok report ∧
      check w log o = reported w.host o report.summary events := by
  cases hs : checkSettings w o with
  | error f => exact absurd (.settings hs) (h f)
  | ok s =>
      cases hpaths : Discovery.discover w s.projectRoot s.scriptExtension s.skipDirs with
      | error halt => exact absurd (.discovery hs hpaths) (h _)
      | ok paths =>
          have hfound : Discovery.discover w (Project.rootOf s none) s.scriptExtension s.skipDirs =
              .ok paths := hpaths
          obtain ⟨_, report, -, hcheck, -⟩ := Project.check_ok_accounts hw hfound
          exact ⟨s, report, _, rfl, hcheck, by rw [check, hs]; simp only [hcheck]; rfl⟩

/-- A report is printed without fault on every terminal, and its problems decide the code. -/
theorem reported_exit_code (host : Host) (o : CheckOptions) (s : Summary) (events : List Event) :
    (reported host o s events).exitCode =
        (if 0 < s.total ∧ o.exitZero = false then 1 else 0) ∧
      (reported host o s events).crash = none := by
  have hcode : checkCode o s = if 0 < s.total ∧ o.exitZero = false then 1 else 0 := by
    simp [checkCode, Summary.hasProblems, problemsCode]
  have hprinted : (Console.printAll host.terminal [s.markup]).fault = none := by
    rw [Console.print_all_fault_eq_none_iff, List.forall_mem_singleton]
    exact ⟨s.taken_markup host.terminal, _, s.printed_markup⟩
  rw [reported, ← hcode]
  split
  · exact ⟨rfl, rfl⟩
  · simp [Outcome.printing, hprinted]

/-- The exit code of a check. A check that fails ends with 2 if the failure can be told, and breaks
off with 1 if not. A failure can be told wherever the log can write its event and none of its texts
closes a tag, if the terminal takes them, as every terminal does where none holds an opening
bracket. A check that does not fail has a report and never breaks off; it ends with 1 if there are
problems and they count, and otherwise with 0. -/
theorem check_exit_code (hw : w.tree.WellFormed) (log : LogState) (o : CheckOptions) :
    (∀ f, Fails w o f →
      (Tellable w log o f → (check w log o).exitCode = 2 ∧ (check w log o).crash = none) ∧
      (¬ Tellable w log o f →
        (check w log o).exitCode = 1 ∧ (check w log o).crash.isSome = true) ∧
      ((∀ text ∈ Outcome.toldTexts w.host o.verbose f, NoClosing text.toList) →
        (∀ markup ∈ Outcome.failureMarkup w.host o.verbose f,
          w.host.terminal.refusal? markup = none) →
        Loggable log f → Tellable w log o f) ∧
      ((∀ text ∈ Outcome.toldTexts w.host o.verbose f, '[' ∉ text.toList) →
        Loggable log f → Tellable w log o f)) ∧
    ((∀ f, ¬ Fails w o f) →
      ∃ s report, checkSettings w o = .ok s ∧ Project.check w s none = .ok report ∧
        (check w log o).exitCode =
          (if 0 < report.summary.total ∧ o.exitZero = false then 1 else 0) ∧
        (check w log o).crash = none) := by
  constructor
  · intro f hfails
    obtain ⟨events, hcheck⟩ := check_of_fails hfails log
    rw [hcheck]
    exact ⟨fun h => fail_of_tellable h events, fun h => fail_of_not_tellable h events,
      tellable_of_no_closing, tellable_of_not_mem_open⟩
  · intro h
    obtain ⟨s, report, events, hs, hreport, hcheck⟩ := check_of_not_fails hw h log
    rw [hcheck]
    exact ⟨s, report, hs, hreport, reported_exit_code w.host o report.summary events⟩

/-! ## A failure that can be told and one that cannot -/

/-- `bareWorld` holds no files. -/
def bareWorld : World :=
  ⟨.directory [], [], [], ⟨[], [], []⟩, .usual⟩

/-- `checkOf path` asks for a check of the project at a path, and for nothing else. -/
def checkOf (path : String) : CheckOptions :=
  ⟨some path, none, false, false, [], false, false⟩

/-- `warnings` logs to the console from warnings on. -/
def warnings : LogState :=
  ⟨30, .console, false, none, false⟩

/-- A check of a directory that does not exist fails. -/
theorem fails_missing : Fails bareWorld (checkOf "gone")
    (.input "Directory does not exist: /gone" none) :=
  .settings rfl

/-- A check of a directory that does not exist ends with the fatal code. -/
theorem check_exit_code_missing :
    bareWorld.tree.WellFormed ∧
      Fails bareWorld (checkOf "gone") (.input "Directory does not exist: /gone" none) ∧
      (check bareWorld warnings (checkOf "gone")).exitCode = 2 ∧
      (check bareWorld warnings (checkOf "gone")).crash = none := by
  have hw : bareWorld.tree.WellFormed := .directory [] (by simp) (by simp) (by simp)
  obtain ⟨hcode, -, -, htell⟩ := (check_exit_code hw warnings (checkOf "gone")).1 _ fails_missing
  refine ⟨hw, fails_missing, hcode (htell ?_ ?_)⟩
  · intro text htext
    obtain rfl := List.mem_singleton.1 htext
    decide
  · intro hunexpected
    cases hunexpected

/-- A check of a directory that does not exist breaks off, with the code that stands for problems,
if the name of the directory reads as a closing tag. -/
theorem check_breaks_off :
    Fails bareWorld (checkOf "[/x]") (.input "Directory does not exist: /[/x]" none) ∧
      (check bareWorld warnings (checkOf "[/x]")).exitCode = 1 ∧
      (check bareWorld warnings (checkOf "[/x]")).crash =
        some (.unprintable (.tag (.unmatched "/x" 52))) := by
  have hsettings : checkSettings bareWorld (checkOf "[/x]") =
      .error (.input "Directory does not exist: /[/x]" none) := rfl
  have hfault : (Console.printAll .plain (Outcome.failureMarkup .usual false
      (.input "Directory does not exist: /[/x]" none))).fault =
        some (.tag (.unmatched "/x" 52)) := by
    decide +kernel
  refine ⟨.settings hsettings, ?_⟩
  rw [check, hsettings]
  exact fail_of_fault rfl hfault warnings []

end Command

end SceneLint
