import TrayIndicator.Proofs.Indicator.Dispatch

/-!
# Failed requests

A run of the indicator over a scripted launcher is told step by step: what was
asked so far is a matter of the events alone, and the script decides only the
warnings. So two scripts give runs that differ in their warnings and nowhere
else, and a failure is warned of where its request was made.

Nothing is said here of launchers that tell events of their own. The settings
and the home directory are no part of a step, so a run cannot change them.
-/

namespace TrayIndicator

/-- An event that warns of the failure of a request: it names what was to be
started, and with what, and the text of the failure. -/
def LogEvent.WarnsOf (told : LogEvent) (request : Request) (error : IoError) : Prop :=
  told.level = .warn ∧ told.fields.lookup "error" = some error.text ∧
    match request with
    | .open opener target =>
      told.fields.lookup "opener" = some opener ∧ told.fields.lookup "path" = some target.shown
    | .spawn program => told.fields.lookup "program" = some program

/-- Warnings that tell exactly of a request's failure: there is one if there is
a request and it failed, and it names both; else there is none. -/
def WarnExactlyOf (warnings : List LogEvent) : Option Request → Option IoError → Prop
  | some request, some error => ∃ told, warnings = [told] ∧ told.WarnsOf request error
  | _, _ => warnings = []

/-- The failure that a script has for the request with a number, from 0 on. -/
def scriptedFailure? (script : List (Option IoError)) (number : Nat) : Option IoError :=
  script[number]?.join

namespace Indicator

variable {σ : Type} (indicator : Indicator σ)

/-- The warning about a failed request names it. -/
theorem warnsOf_warning (request : Request) (error : IoError) :
    (warning request error).WarnsOf request error := by
  cases request with
  | «open» opener target => exact ⟨rfl, rfl, rfl, rfl⟩
  | spawn program => exact ⟨rfl, rfl, rfl⟩

/-- The warnings of an event whose request, if it makes one, meets a failure. -/
def failureWarnings (event : IndicatorEvent) (failure? : Option IoError) : List LogEvent :=
  match indicator.request? event, failure? with
  | some request, some error => [warning request error]
  | _, _ => []

/-- Each of them is a warning. -/
theorem level_failureWarnings (event : IndicatorEvent) (failure? : Option IoError) :
    ∀ told ∈ indicator.failureWarnings event failure?, told.level = .warn := by
  unfold failureWarnings
  split
  · next request error _ =>
    intro told htold
    rw [List.mem_singleton.mp htold]
    exact (warnsOf_warning request error).1
  · simp

/-- They tell exactly of the failure of the event's request. -/
theorem warnExactlyOf_failureWarnings (event : IndicatorEvent) (failure? : Option IoError) :
    WarnExactlyOf (indicator.failureWarnings event failure?) (indicator.request? event)
      failure? := by
  unfold failureWarnings
  cases indicator.request? event with
  | none => rfl
  | some request =>
    cases failure? with
    | none => rfl
    | some error => exact ⟨warning request error, rfl, warnsOf_warning request error⟩

/-- What a recording is after events: each request took its place of the
script, and everything that was asked is noted. -/
def recordingAfter (events : List IndicatorEvent) (recording : Recording) : Recording :=
  ⟨recording.script.drop (events.filterMap indicator.request?).length,
    recording.calls ++ events.flatMap indicator.calls⟩

/-- Events come one after the other. -/
theorem recordingAfter_cons (event : IndicatorEvent) (events : List IndicatorEvent)
    (recording : Recording) :
    indicator.recordingAfter (event :: events) recording =
      indicator.recordingAfter events (indicator.recordingAfter [event] recording) := by
  have hrequests : ((event :: events).filterMap indicator.request?).length =
      ([event].filterMap indicator.request?).length +
        (events.filterMap indicator.request?).length := by
    rw [← List.length_append, ← List.filterMap_append, List.singleton_append]
  have hcalls : (event :: events).flatMap indicator.calls =
      [event].flatMap indicator.calls ++ events.flatMap indicator.calls := by
    rw [← List.flatMap_append, List.singleton_append]
  simp only [recordingAfter, hrequests, hcalls, List.drop_drop, List.append_assoc]

/-- No events leave a recording as it is. -/
theorem recordingAfter_nil (recording : Recording) :
    indicator.recordingAfter [] recording = recording := by
  simp [recordingAfter]

end Indicator

/-- The indicator over the scripted launcher. -/
def Indicator.scripted (settings : Settings) (home : Option Path) : Indicator Recording :=
  ⟨settings, home, .scripted⟩

/-- A request takes the first place of the script, and is noted once. -/
theorem Launcher.scripted_start (request : Request) (recording : Recording) :
    Launcher.scripted.start request recording =
      ⟨match scriptedFailure? recording.script 0 with
        | some error => .error error
        | none => .ok (),
        ⟨recording.script.drop 1, recording.calls ++ [.start request]⟩, []⟩ := by
  cases hscript : recording.script with
  | nil => simp [Launcher.scripted, scriptedFailure?, hscript]
  | cons outcome script =>
    cases outcome with
    | none => simp [Launcher.scripted, scriptedFailure?, hscript]
    | some error => simp [Launcher.scripted, scriptedFailure?, hscript]

namespace Indicator

variable (settings : Settings) (home : Option Path)

/-- One step: the flow and the recording are those of the event, and the next
failure of the script is warned of if the event makes a request. -/
theorem scripted_handle (event : IndicatorEvent) (recording : Recording) :
    (scripted settings home).handle event recording =
      ⟨event.flow?, (scripted settings home).recordingAfter [event] recording,
        event.announcements ++ (scripted settings home).failureWarnings event
          (scriptedFailure? recording.script 0)⟩ := by
  by_cases htick : event = .tick
  · rw [htick, handle_tick]
    simp [scripted, Launcher.scripted, recordingAfter, request?, calls, failureWarnings,
      IndicatorEvent.action?, IndicatorEvent.flow?, IndicatorEvent.announcements]
  · have hcalls := calls_of_ne_tick (scripted settings home) htick
    cases hrequest : (scripted settings home).request? event with
    | none =>
      rw [handle_of_request?_eq_none _ hrequest htick]
      simp [recordingAfter, failureWarnings, hrequest, hcalls]
    | some request =>
      rw [handle_of_request?_eq_some _ hrequest]
      have hstart : (scripted settings home).launcher.start request recording = _ :=
        Launcher.scripted_start request recording
      simp only [hstart]
      cases hfailure : scriptedFailure? recording.script 0 with
      | none => simp [recordingAfter, failureWarnings, hrequest, hcalls, warnings]
      | some error => simp [recordingAfter, failureWarnings, hrequest, hcalls, warnings]

/-- The whole run: every step is taken from the recording that the events
before it leave. -/
theorem scripted_run_getElem? (events : List IndicatorEvent) (recording : Recording) (i : Nat) :
    ((scripted settings home).run events recording)[i]? =
      events[i]?.map fun event => (scripted settings home).handle event
        ((scripted settings home).recordingAfter (events.take i) recording) := by
  induction events generalizing recording i with
  | nil => rfl
  | cons event events ih =>
    cases i with
    | zero => simp [run, recordingAfter_nil]
    | succ i =>
      -- the rest of the run starts from the recording that the first event leaves
      have hstate : ((scripted settings home).handle event recording).state =
          (scripted settings home).recordingAfter [event] recording := by
        rw [scripted_handle]
      simp only [run, List.getElem?_cons_succ, List.take_succ_cons, hstate]
      rw [ih, recordingAfter_cons _ event (events.take i) recording]

/-- The events of a step that are no warnings are those that are told whatever
comes of it. -/
theorem filter_told (event : IndicatorEvent) (failure? : Option IoError) :
    (event.announcements ++ (scripted settings home).failureWarnings event failure?).filter
      (fun told => told.level ≠ .warn) = event.announcements := by
  have hkept : event.announcements.filter (fun told => told.level ≠ .warn) =
      event.announcements := by
    rw [List.filter_eq_self]
    intro told htold
    exact decide_eq_true (event.level_announcements told htold)
  have hdropped : ((scripted settings home).failureWarnings event failure?).filter
      (fun told => told.level ≠ .warn) = [] := by
    rw [List.filter_eq_nil_iff]
    intro told htold
    simp [level_failureWarnings _ event failure? told htold]
  rw [List.filter_append, hkept, hdropped, List.append_nil]

/-- The warnings of a step are those of its failed request. -/
theorem filter_warnings (event : IndicatorEvent) (failure? : Option IoError) :
    (event.announcements ++ (scripted settings home).failureWarnings event failure?).filter
      (fun told => told.level = .warn) =
        (scripted settings home).failureWarnings event failure? := by
  have hdropped : event.announcements.filter (fun told => told.level = .warn) = [] := by
    rw [List.filter_eq_nil_iff]
    intro told htold
    simp [event.level_announcements told htold]
  have hkept : ((scripted settings home).failureWarnings event failure?).filter
      (fun told => told.level = .warn) =
        (scripted settings home).failureWarnings event failure? := by
    rw [List.filter_eq_self]
    intro told htold
    exact decide_eq_true (level_failureWarnings _ event failure? told htold)
  rw [List.filter_append, hdropped, hkept, List.nil_append]

/-- What is seen of the steps of a run from a fresh recording: the flows, the
calls so far, the events that are no warnings, and the warnings. -/
theorem scripted_run_seen (events : List IndicatorEvent) (script : List (Option IoError))
    (i : Nat) :
    ((scripted settings home).run events ⟨script, []⟩)[i]?.map
        (fun step => (step.answer, step.state.calls,
          step.events.filter (fun told => told.level ≠ .warn),
          step.events.filter (fun told => told.level = .warn))) =
      events[i]?.map fun event =>
        (event.flow?, (events.take (i + 1)).flatMap (scripted settings home).calls,
          event.announcements,
          (scripted settings home).failureWarnings event (scriptedFailure? script
            ((events.take i).filterMap (scripted settings home).request?).length)) := by
  cases hevent : events[i]? with
  | none => rw [scripted_run_getElem?, hevent]; rfl
  | some event =>
    have hnext : events.take (i + 1) = events.take i ++ [event] := by
      rw [List.take_add_one, hevent, Option.toList_some]
    have hfailure (n : Nat) : scriptedFailure? (script.drop n) 0 = scriptedFailure? script n := by
      rw [scriptedFailure?, List.getElem?_drop, Nat.add_zero, scriptedFailure?]
    rw [scripted_run_getElem?, hevent, hnext, List.flatMap_append]
    simp only [Option.map_some, scripted_handle, filter_told, filter_warnings, recordingAfter,
      hfailure, List.nil_append]

/-- Failures show in the log alone. Whatever two scripts say, the runs return
the same flow and have made the same calls after every event, and each event is
told alike but for the warnings. What has been asked after an event is exactly
what the events so far ask, each request once and with the settings of the
start. A request that the script lets fail is warned of once, by a warning that
names it and its error, at the event that makes it; nothing else is warned of. -/
theorem run_scripts_differ_in_warnings (events : List IndicatorEvent)
    (first second : List (Option IoError)) :
    let indicator := scripted settings home
    let ours := indicator.run events ⟨first, []⟩
    let theirs := indicator.run events ⟨second, []⟩
    ours.map (·.answer) = theirs.map (·.answer) ∧
      ours.map (·.state.calls) = theirs.map (·.state.calls) ∧
      ours.map (fun step => step.events.filter (fun told => told.level ≠ .warn)) =
        theirs.map (fun step => step.events.filter (fun told => told.level ≠ .warn)) ∧
      ∀ i event, events[i]? = some event → ∃ step, ours[i]? = some step ∧
        step.answer = event.flow? ∧
        step.state.calls = (events.take (i + 1)).flatMap indicator.calls ∧
        WarnExactlyOf (step.events.filter (fun told => told.level = .warn))
          (indicator.request? event)
          (scriptedFailure? first ((events.take i).filterMap indicator.request?).length) := by
  intro indicator ours theirs
  have hours := scripted_run_seen settings home events first
  have htheirs := scripted_run_seen settings home events second
  have halike : ours.map (fun step => (step.answer, step.state.calls,
        step.events.filter (fun told => told.level ≠ .warn))) =
      theirs.map (fun step => (step.answer, step.state.calls,
        step.events.filter (fun told => told.level ≠ .warn))) := by
    apply List.ext_getElem?
    intro i
    have hour := congrArg (Option.map fun seen => (seen.1, seen.2.1, seen.2.2.1)) (hours i)
    have htheir := congrArg (Option.map fun seen => (seen.1, seen.2.1, seen.2.2.1)) (htheirs i)
    rw [List.getElem?_map, List.getElem?_map]
    simp only [Option.map_map, Function.comp_def] at hour htheir
    exact hour.trans htheir.symm
  refine ⟨?_, ?_, ?_, ?_⟩
  · simpa only [List.map_map, Function.comp_def] using congrArg (List.map (·.1)) halike
  · simpa only [List.map_map, Function.comp_def] using congrArg (List.map (·.2.1)) halike
  · simpa only [List.map_map, Function.comp_def] using congrArg (List.map (·.2.2)) halike
  · intro i event hevent
    have hseen := hours i
    rw [hevent, Option.map_some, Option.map_eq_some_iff] at hseen
    obtain ⟨step, hstep, hseen⟩ := hseen
    simp only [Prod.mk.injEq] at hseen
    obtain ⟨hflow, hcalls, _, hwarnings⟩ := hseen
    refine ⟨step, hstep, hflow, hcalls, ?_⟩
    rw [hwarnings]
    exact warnExactlyOf_failureWarnings indicator event _

end Indicator

end TrayIndicator
