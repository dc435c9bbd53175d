import Mathlib.Data.List.Induction
import SceneLint.Proofs.Results
import SceneLint.Session

/-!
# Settings over a whole session

A session is asked for settings, told to keep or forget them, and asked for loggers, while its world
changes in any way. `history` notes for each request the world it met and whether it asked for the
settings of the session. `remembered` reads off a history what should be kept: what the session was
last told to keep since it last forgot, or else what it had kept at the start if it never forgot, or
else what the first load that succeeded since then gave. One request changes what is kept as it
changes what is remembered (`kept_after`, `remembered_concat`), so the two agree over every run
(`kept_eq_remembered`). `session_settings` says what this means for the answers.
-/

namespace SceneLint

/-- The settings loaded for a session are those of a command that names no file and overrides
nothing. -/
theorem Settings.current_eq_for_command (w : World) : current w = forCommand w none [] := by
  rw [current, forCommand]
  cases standardFiles w with
  | error f => rfl
  | ok paths =>
      cases paths with
      | nil => rfl
      | cons path paths => rfl

namespace Session

/-- A `Request` is what a session is asked for, or a change of its world. -/
inductive Request where
  | settings
  | keep (settings : Settings)
  | forget
  | forCommand (file? : Option FilePath) (overrides : List Settings.Entry)
  | logger (name : String)
  | change (world : World)

/-- `answer s r` is the settings that a request gives, or why it gives none; some requests do not
give settings. -/
def answer (s : Session) : Request → Option (Except Failure Settings)
  | .settings => some (s.settings.map fun loaded => loaded.1.1)
  | .forCommand file? overrides => some (Settings.forCommand s.world file? overrides)
  | _ => none

/-- `after s r` is the session behind a request. -/
def after (s : Session) : Request → Session
  | .settings =>
      match s.settings with
      | .ok (_, s) => s
      | .error _ => s
  | .keep settings => s.keep settings
  | .forget => s.forget
  | .forCommand _ _ => s
  | .logger name => (s.logger name).2
  | .change world => { s with world := world }

/-- `afterAll s requests` is the session behind requests. -/
def afterAll (s : Session) (requests : List Request) : Session :=
  requests.foldl after s

/-- `answers s requests` is the requests with their answers. -/
def answers (s : Session) : List Request → List (Request × Option (Except Failure Settings))
  | [] => []
  | r :: requests => (r, s.answer r) :: answers (s.after r) requests

/-! ## What should be kept -/

/-- A `Moment` is a request, the world it met, and whether it asked for the settings of the
session. -/
structure Moment where
  world : World
  request : Request
  asks : Bool

/-- `asks s r` says that a request asks for the settings of the session: a logger does where logging
is not set up yet. -/
def asks (s : Session) : Request → Bool
  | .settings => true
  | .logger name => !s.loggers.contains name && !s.isConfigured
  | _ => false

/-- `history s requests` is the moments of a run. -/
def history (s : Session) : List Request → List Moment
  | [] => []
  | r :: requests => ⟨s.world, r, s.asks r⟩ :: history (s.after r) requests

namespace Moment

/-- `isForget m` says that the session was told to forget. -/
def isForget (m : Moment) : Bool :=
  match m.request with
  | .forget => true
  | _ => false

/-- `kept? m` is the settings that the session was told to keep. -/
def kept? (m : Moment) : Option Settings :=
  match m.request with
  | .keep settings => some settings
  | _ => none

/-- `loaded? m` is the settings that a load gave at this moment. -/
def loaded? (m : Moment) : Option Settings :=
  if m.asks then (Settings.current m.world).toOption else none

end Moment

/-- `sinceForget h` is the moments since the session was last told to forget. -/
def sinceForget (h : List Moment) : List Moment :=
  (h.reverse.takeWhile (!·.isForget)).reverse

/-- `remembered first h` is what the session was last told to keep since it was last told to forget,
or else what it had kept at the start if it was never told to forget, or else what the first load
that succeeded since then gave. -/
def remembered (first : Option Settings) (h : List Moment) : Option Settings :=
  (sinceForget h).reverse.findSome? Moment.kept? <|>
    (if h.any Moment.isForget then none else first) <|>
    (sinceForget h).findSome? Moment.loaded?

/-- A moment more: the session forgets, or it is told what to keep, or it remembers what it did and
else what could be loaded at that moment. -/
theorem remembered_concat (first : Option Settings) (h : List Moment) (m : Moment) :
    remembered first (h ++ [m]) =
      if m.isForget then none else m.kept? <|> remembered first h <|> m.loaded? := by
  cases hforget : m.isForget with
  | true => simp [remembered, sinceForget, hforget]
  | false =>
      have hsince : sinceForget (h ++ [m]) = sinceForget h ++ [m] := by
        simp [sinceForget, hforget]
      have hlast : (sinceForget h ++ [m]).reverse.findSome? Moment.kept? =
          (m.kept? <|> (sinceForget h).reverse.findSome? Moment.kept?) := by
        rw [List.reverse_append, List.findSome?_append]
        simp
      have hfirst : (sinceForget h ++ [m]).findSome? Moment.loaded? =
          ((sinceForget h).findSome? Moment.loaded? <|> m.loaded?) := by
        rw [List.findSome?_append]
        simp
      have hany : (h ++ [m]).any Moment.isForget = h.any Moment.isForget := by
        simp [hforget]
      simp only [remembered, hsince, hlast, hfirst, hany, Option.orElse_eq_orElse,
        Option.orElse_eq_or, Option.or_assoc, Bool.false_eq_true, if_false]

/-! ## What is kept -/

/-- A request for the settings keeps what was kept, or else what could be loaded. -/
theorem kept_after_settings (s : Session) :
    (s.after .settings).kept = (s.kept <|> (Settings.current s.world).toOption) := by
  cases hkept : s.kept with
  | some x => simp [after, settings, hkept]
  | none =>
      cases hload : Settings.current s.world with
      | error f => simp [after, settings, hkept, hload, Except.toOption]
      | ok x => simp [after, settings, hkept, hload, Except.toOption]

/-- Setting up logging leaves what is kept. -/
theorem kept_configure {s t : Session} {x : Settings} (h : s.configure x = .ok t) :
    t.kept = s.kept := by
  obtain ⟨made, -, rfl⟩ := map_eq_ok_iff.1 h
  rfl

/-- A logger keeps what was kept, and loads settings only to set up logging. -/
theorem kept_after_logger (s : Session) (name : String) :
    (s.after (.logger name)).kept =
      (s.kept <|> if s.asks (.logger name) then (Settings.current s.world).toOption else none) := by
  by_cases hknown : name ∈ s.loggers
  · simp [after, logger, asks, hknown]
  by_cases hconfigured : s.isConfigured = true
  · simp [after, logger, asks, hknown, hconfigured]
  have hasks : s.asks (.logger name) = true := by simp [asks, hknown, hconfigured]
  rw [hasks, if_pos rfl, ← kept_after_settings]
  simp only [after, logger, List.contains_eq_mem, hknown, hconfigured, decide_false,
    Bool.false_eq_true, if_false]
  cases hsettings : s.settings with
  | error f => rfl
  | ok loaded =>
      obtain ⟨⟨x, _⟩, t⟩ := loaded
      simp only
      split
      · rfl
      · next u hconfigure =>
          show u.kept = t.kept
          exact kept_configure hconfigure

/-- One request changes what is kept as its moment changes what is remembered. -/
theorem kept_after (s : Session) (r : Request) :
    (s.after r).kept =
      let m : Moment := ⟨s.world, r, s.asks r⟩
      if m.isForget then none else m.kept? <|> s.kept <|> m.loaded? := by
  have hnone : s.kept = (s.kept <|> none) := by simp
  cases r with
  | settings => exact kept_after_settings s
  | logger name => exact kept_after_logger s name
  | keep x => rfl
  | forget => rfl
  | forCommand file? overrides => exact hnone
  | change world => exact hnone

/-- The last request of a run is the last moment of its history. -/
theorem history_concat (s : Session) (requests : List Request) (r : Request) :
    history s (requests ++ [r]) =
      history s requests ++ [⟨(s.afterAll requests).world, r, (s.afterAll requests).asks r⟩] := by
  induction requests generalizing s with
  | nil => rfl
  | cons first requests ih =>
      rw [List.cons_append, history, ih, history]
      rfl

/-- What a session keeps after a run is what is remembered of its history. -/
theorem kept_eq_remembered (s : Session) (requests : List Request) :
    (s.afterAll requests).kept = remembered s.kept (history s requests) := by
  induction requests using List.reverseRecOn with
  | nil => simp [remembered, sinceForget, history, afterAll]
  | append_singleton requests r ih =>
      rw [history_concat, remembered_concat, ← ih, ← kept_after]
      simp [afterAll]

/-- A request for the settings is answered with what is kept, or else with what is loaded now. -/
theorem answer_settings (s : Session) :
    s.answer .settings =
      some (match s.kept with
        | some x => .ok x
        | none => Settings.current s.world) := by
  cases hkept : s.kept with
  | some x => simp [answer, settings, hkept, Except.map]
  | none =>
      cases hload : Settings.current s.world with
      | error f => simp [answer, settings, hkept, hload, Except.map]
      | ok x => simp [answer, settings, hkept, hload, Except.map]

/-- A load that fails leaves the session as it was, with nothing kept. -/
theorem after_failed_settings {s : Session} {f : Failure}
    (h : s.answer .settings = some (.error f)) :
    s.after .settings = s ∧ s.kept = none := by
  rw [answer_settings] at h
  cases hkept : s.kept with
  | some x =>
      rw [hkept] at h
      cases h
  | none =>
      rw [hkept] at h
      have hload : Settings.current s.world = .error f := Option.some.inj h
      exact ⟨by simp [after, settings, hkept, hload], rfl⟩

/-- `isForCommand r` says that a request asks for the settings of a command. -/
def Request.isForCommand : Request → Bool
  | .forCommand _ _ => true
  | _ => false

/-- Without the requests for the settings of commands, all others are answered alike. -/
theorem answers_filter (s : Session) (requests : List Request) :
    (s.answers requests).filter (!·.1.isForCommand) =
      s.answers (requests.filter (!·.isForCommand)) := by
  induction requests generalizing s with
  | nil => rfl
  | cons r requests ih =>
      cases hr : r.isForCommand with
      | false =>
          rw [List.filter_cons_of_pos (by simp [hr]), answers, answers,
            List.filter_cons_of_pos (by simp [hr]), ih]
      | true =>
          have hafter : s.after r = s := by
            cases r with
            | forCommand => rfl
            | _ => cases hr
          rw [List.filter_cons_of_neg (by simp [hr]), answers,
            List.filter_cons_of_neg (by simp [hr]), hafter, ih]

/-- The settings of a session after any run. A request for them is answered with what is remembered
of the run, and with what is loaded from the world as it is now where nothing is remembered. A load
that fails leaves the session as it was, with nothing kept. Requests for the settings of commands
change no other answer; and what is loaded now is what a command would get that names no file and
overrides nothing. -/
theorem session_settings (s : Session) (requests : List Request) :
    (s.afterAll requests).answer .settings =
      some (match remembered s.kept (history s requests) with
        | some x => .ok x
        | none => Settings.current (s.afterAll requests).world) ∧
    (∀ f, (s.afterAll requests).answer .settings = some (.error f) →
      (s.afterAll requests).after .settings = s.afterAll requests ∧
        (s.afterAll requests).kept = none) ∧
    (s.answers requests).filter (!·.1.isForCommand) =
      s.answers (requests.filter (!·.isForCommand)) ∧
    Settings.current (s.afterAll requests).world =
      Settings.forCommand (s.afterAll requests).world none [] := by
  refine ⟨?_, fun f => after_failed_settings, answers_filter s requests,
    Settings.current_eq_for_command _⟩
  rw [answer_settings, kept_eq_remembered]

/-- `plainSession environment` is a session in an empty directory, before any request. -/
def plainSession (environment : List (String × String)) : Session :=
  ⟨⟨.directory [], environment, [], ⟨[], [], []⟩, .usual⟩, none, false, [],
    ⟨30, .console, false, none, false⟩⟩

/-- What was loaded first stays, also when the environment changes; a load that fails before does
not count. -/
theorem session_settings_changed :
    ((plainSession [("HOME", "/"), ("GODOTCHECK_DEBUG", "maybe")]).afterAll
      [.settings, .change (plainSession [("HOME", "/"), ("GODOTCHECK_DEBUG", "yes")]).world,
        .settings, .change (plainSession [("HOME", "/")]).world]).answer .settings =
      some (.ok { Settings.default ⟨.root, []⟩ with debug := true }) := by
  refine (session_settings _ _).1.trans ?_
  rfl

end Session

end SceneLint
