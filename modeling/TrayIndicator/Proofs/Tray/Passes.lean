import Mathlib.Data.List.TakeWhile
import TrayIndicator.Proofs.Indicator.Dispatch
import TrayIndicator.Tray.EventLoop

/-!
# The passes of the event loop

Before every wait the application drains the toolkit's queues. What a pass
asks of the launcher is read off its two queues: the opens of the menu ids, the
spawns of the clicks that count, and one collection of children, or the opens
before the first quit id and nothing more. The launcher is any launcher, and
only what it is asked is noted.

The order in which the toolkit fills its queues is not described, nor what it
does after the application has asked to exit.
-/

namespace TrayIndicator.Tray

/-- What is remembered after clicks. -/
def ClickFilter.after (clicks : ClickFilter) (stream : List Click) : ClickFilter :=
  stream.foldl (fun clicks click => (clicks.step click).2) clicks

/-- The clicks among events of the icon, in order. -/
def clicksOf (events : List IconEvent) : List Click := events.filterMap IconEvent.click?

/-- What one pass comes to. -/
structure PassReport where
  /-- What the launcher has been asked up to the end of the pass. -/
  asked : List Call
  /-- Does the pass ask to exit? -/
  exits : Bool
  /-- What the pass leaves unread. -/
  left : Queues
  deriving DecidableEq, Repr

section Specification

variable {σ : Type} (indicator : Indicator σ)

/-- One request to open the log for each id of its entry. -/
def opens (ids : List String) : List Call :=
  (ids.filter (· = "open_log_file")).map fun _ =>
    .start (.open indicator.settings.opener (indicator.settings.logTarget indicator.home))

/-- One request to start the companion for each event of the icon that counts as
a single primary click. -/
def spawns (clicks : ClickFilter) (events : List IconEvent) : List Call :=
  ((clicks.reasons (clicksOf events)).filter (· = some .trigger)).map fun _ =>
    .start (.spawn indicator.settings.companion)

/-- What a pass has to come to, after what was asked before it. -/
def passReport (earlier : List Call) (clicks : ClickFilter) (queued : Queues) : PassReport :=
  if "quit" ∈ queued.menu then
    ⟨earlier ++ opens indicator (queued.menu.takeWhile (· ≠ "quit")), true,
      ⟨(queued.menu.dropWhile (· ≠ "quit")).tail, queued.icon⟩⟩
  else
    ⟨earlier ++ (opens indicator queued.menu ++ spawns indicator clicks queued.icon ++ [.reap]),
      false, ⟨[], []⟩⟩

/-- What passes have to come to one after the other, up to the first that asks
to exit. -/
def passReports (earlier : List Call) (clicks : ClickFilter) : List Queues → List PassReport
  | [] => []
  | queued :: passes =>
    let report := passReport indicator earlier clicks queued
    if report.exits then [report]
    else report :: passReports report.asked (clicks.after (clicksOf queued.icon)) passes

end Specification

/-- The queues that a call comes with, if it is a pass. -/
def LoopCall.queued? : LoopCall → Option Queues
  | .aboutToWait queued => some queued
  | _ => none

/-- What was seen of a pass, when notes are taken of what the launcher is asked. -/
def Visit.passReport? {σ : Type} (visit : Visit (List Call × σ)) : Option PassReport :=
  visit.call.queued?.map fun _ => ⟨visit.app.launcher.1, visit.exits, visit.left⟩

section Steps

variable {σ : Type} (indicator : Indicator σ)

/-- A menu id asks to exit exactly if it is that of the quit entry. -/
theorem onMenuId_answer (id : String) (launcher : σ) :
    (indicator.onMenuId id launcher).answer = .exit ↔ id = "quit" := by
  have hflow := indicator.handle_answer (.menuId id) launcher
  have hanswer : some (indicator.onMenuId id launcher).answer =
      some (if MenuAction.ofId? id = some .quit then .exit else .proceed) := hflow
  rw [Option.some.injEq] at hanswer
  rw [hanswer, MenuAction.ofId?_eq]
  by_cases hopen : id = MenuAction.openLogFile.id
  · have hquit : MenuAction.openLogFile.id ≠ "quit" := by decide
    simp [hopen, hquit]
  · by_cases hquit : id = MenuAction.quit.id
    · simp [hquit, MenuAction.id]
    · have hquit' : id ≠ "quit" := hquit
      simp [hopen, hquit, hquit']

/-- What a menu id asks: to open the log, if it is the id of that entry. -/
theorem opens_cons (id : String) (ids : List String) :
    opens indicator (id :: ids) = indicator.calls (.menuId id) ++ opens indicator ids := by
  have hcalls : indicator.calls (.menuId id) =
      if id = "open_log_file" then [.start indicator.openRequest] else [] :=
    indicator.calls_menuId id
  rw [hcalls]
  by_cases hid : id = "open_log_file"
  · rw [if_pos hid]
    simp [opens, hid, Indicator.openRequest, Indicator.target]
  · rw [if_neg hid]
    simp [opens, hid]

/-- An event of the icon that is no click asks nothing. -/
theorem spawns_cons_of_none (clicks : ClickFilter) {event : IconEvent} (events : List IconEvent)
    (hclick : event.click? = none) :
    spawns indicator clicks (event :: events) = spawns indicator clicks events := by
  simp [spawns, clicksOf, hclick]

/-- A click asks what the reason it gives asks, and is remembered. -/
theorem spawns_cons_of_some (clicks : ClickFilter) {event : IconEvent} {click : Click}
    (events : List IconEvent) (hclick : event.click? = some click) :
    spawns indicator clicks (event :: events) =
      ((clicks.step click).1.toList.flatMap fun reason => indicator.calls (.activate reason)) ++
        spawns indicator (clicks.step click).2 events := by
  have hstream : clicksOf (event :: events) = click :: clicksOf events := by
    simp [clicksOf, hclick]
  simp only [spawns, hstream, ClickFilter.reasons]
  cases hreason : (clicks.step click).1 with
  | none => simp
  | some reason =>
    cases reason with
    | trigger => simp [Indicator.calls, Indicator.request?, Indicator.companionRequest]
    | doubleClick | context | middleClick =>
      simp [Indicator.calls, Indicator.request?, IndicatorEvent.action?]

/-- The menu queue: the ids before the first quit id are answered, and the rest
of the queue is left exactly if there is a quit id. -/
theorem drainMenu_noting (ids : List String) (state : List Call × σ) :
    let step := App.drainMenu indicator.noting ids state
    step.answer = (if "quit" ∈ ids then (.exit, (ids.dropWhile (· ≠ "quit")).tail)
      else (.proceed, [])) ∧
      step.state.1 = state.1 ++ opens indicator (ids.takeWhile (· ≠ "quit")) := by
  induction ids generalizing state with
  | nil => simp [App.drainMenu, opens]
  | cons id ids ih =>
    have hcalls : (indicator.noting.onMenuId id state).state.1 =
        state.1 ++ indicator.calls (.menuId id) :=
      indicator.noting_handle_calls (.menuId id) state
    by_cases hquit : id = "quit"
    · -- the quit id is consumed but asks nothing
      have hexit := (onMenuId_answer indicator.noting id state).mpr hquit
      have hnothing : indicator.calls (.menuId id) = [] := by
        rw [hquit]
        rfl
      simp only [App.drainMenu, if_pos hexit]
      rw [hcalls, hnothing]
      simp [hquit, opens]
    · have hproceed : ¬ (indicator.noting.onMenuId id state).answer = .exit := fun h =>
        hquit ((onMenuId_answer indicator.noting id state).mp h)
      obtain ⟨hanswer, hstate⟩ := ih (indicator.noting.onMenuId id state).state
      simp only [App.drainMenu, if_neg hproceed]
      refine ⟨?_, ?_⟩
      · rw [hanswer]
        simp [hquit, Ne.symm hquit]
      · have hkept : (id :: ids).takeWhile (· ≠ "quit") = id :: ids.takeWhile (· ≠ "quit") := by
          simp [hquit]
        rw [hstate, hcalls, hkept, opens_cons, List.append_assoc]

/-- The queue of the icon: every click is remembered, and those that count
start the companion. -/
theorem drainIcon_noting (events : List IconEvent) (clicks : ClickFilter)
    (state : List Call × σ) :
    let step := App.drainIcon indicator.noting events clicks state
    step.answer = clicks.after (clicksOf events) ∧
      step.state.1 = state.1 ++ spawns indicator clicks events := by
  induction events generalizing clicks state with
  | nil => simp [App.drainIcon, ClickFilter.after, clicksOf, spawns, ClickFilter.reasons]
  | cons event events ih =>
    cases hclick : event.click? with
    | none =>
      have hstream : clicksOf (event :: events) = clicksOf events := by simp [clicksOf, hclick]
      simp only [App.drainIcon, hclick, hstream, spawns_cons_of_none indicator clicks events hclick]
      exact ih clicks state
    | some click =>
      have hafter : clicks.after (clicksOf (event :: events)) =
          (clicks.step click).2.after (clicksOf events) := by
        simp [ClickFilter.after, clicksOf, hclick]
      rw [hafter, spawns_cons_of_some indicator clicks events hclick]
      cases hstep : clicks.step click with
      | mk reason? next =>
        cases reason? with
        | none =>
          simp only [App.drainIcon, hclick, hstep]
          exact ih next state
        | some reason =>
          have hcalls : (indicator.noting.onActivation reason state).state.1 =
              state.1 ++ indicator.calls (.activate reason) :=
            indicator.noting_handle_calls (.activate reason) state
          obtain ⟨hanswer, hstate⟩ := ih next (indicator.noting.onActivation reason state).state
          simp only [App.drainIcon, hclick, hstep]
          refine ⟨hanswer, ?_⟩
          rw [hstate, hcalls]
          simp

/-- One pass: what is seen of it is what it has to come to. The icons stay, and
unless the pass asks to exit every click is remembered. -/
theorem answer_aboutToWait (queued : Queues) (app : App (List Call × σ)) :
    let visit := App.answer indicator.noting (.aboutToWait queued) app
    let report := passReport indicator app.launcher.1 app.clicks queued
    visit.passReport? = some report ∧ visit.exits = report.exits ∧
      visit.app.launcher.1 = report.asked ∧ visit.app.icons = app.icons ∧
      (report.exits = false → visit.app.clicks = app.clicks.after (clicksOf queued.icon)) := by
  obtain ⟨hmenu, hopens⟩ := drainMenu_noting indicator queued.menu app.launcher
  by_cases hquit : "quit" ∈ queued.menu
  · rw [if_pos hquit] at hmenu
    simp only [App.answer, App.drain, hmenu, passReport, if_pos hquit, Visit.passReport?,
      LoopCall.queued?, hopens, Option.map_some, decide_true, reduceCtorEq, false_implies,
      and_self]
  · have hkept : queued.menu.takeWhile (· ≠ "quit") = queued.menu := by
      rw [List.takeWhile_eq_self_iff]
      intro id hid
      exact decide_eq_true fun h => hquit (h ▸ hid)
    rw [hkept] at hopens
    rw [if_neg hquit] at hmenu
    obtain ⟨hclicks, hspawns⟩ := drainIcon_noting indicator queued.icon app.clicks
      (App.drainMenu indicator.noting queued.menu app.launcher).state
    have hreap (state : List Call × σ) :
        (indicator.noting.tick state).state.1 = state.1 ++ [.reap] := rfl
    simp only [App.answer, App.drain, hmenu, passReport, if_neg hquit, Visit.passReport?,
      LoopCall.queued?, hreap, hspawns, hopens, hclicks, Option.map_some, reduceCtorEq,
      decide_false, List.append_assoc, forall_const, and_self]

/-- A call that is no pass and is resumed only where the icon is there leaves the
application as it is and goes on. -/
theorem answer_of_queued?_eq_none {call : LoopCall} (app : App σ) (hqueued : call.queued? = none)
    (hicons : ∀ world answers, call = .resumed world answers → app.icons.isEmpty = false) :
    (App.answer indicator call app).exits = false ∧ (App.answer indicator call app).app = app ∧
      (App.answer indicator call app).call = call := by
  cases call with
  | resumed world answers =>
    have hpresent := hicons world answers rfl
    simp [App.answer, App.resume, hpresent]
  | windowEvent => exact ⟨rfl, rfl, rfl⟩
  | aboutToWait queued => cases hqueued

/-- The run over any calls: the passes among them come to what they have to, up
to the first that asks to exit. -/
theorem untilExit_visits (calls : List LoopCall) (app : App (List Call × σ))
    (hicons : ∀ world answers, .resumed world answers ∈ calls → app.icons.isEmpty = false) :
    (untilExit (App.visits indicator.noting calls app)).filterMap Visit.passReport? =
      passReports indicator app.launcher.1 app.clicks (calls.filterMap LoopCall.queued?) := by
  induction calls generalizing app with
  | nil => rfl
  | cons call calls ih =>
    have hlater (world answers) (h : .resumed world answers ∈ calls) :
        app.icons.isEmpty = false := hicons world answers (List.mem_cons_of_mem call h)
    cases hqueued : call.queued? with
    | none =>
      -- no pass: the application stays, and the specification does not see the call
      obtain ⟨hexits, happ, hcall⟩ := answer_of_queued?_eq_none indicator.noting app hqueued
        fun world answers h => hicons world answers (h ▸ List.mem_cons_self)
      have hunseen : (App.answer indicator.noting call app).passReport? = none := by
        rw [Visit.passReport?, hcall, hqueued, Option.map_none]
      simp only [App.visits, untilExit, hexits, Bool.false_eq_true, if_false,
        List.filterMap_cons, hunseen, hqueued, happ]
      exact ih app hlater
    | some queued =>
      have hcall : call = .aboutToWait queued := by
        cases call with
        | aboutToWait other => rw [LoopCall.queued?, Option.some.injEq] at hqueued; rw [hqueued]
        | resumed world answers | windowEvent => cases hqueued
      obtain ⟨hseen, hexits, hasked, hsame, hclicks⟩ := answer_aboutToWait indicator queued app
      rw [hcall]
      simp only [App.visits, untilExit, hexits, List.filterMap_cons, LoopCall.queued?, passReports]
      cases hreport : (passReport indicator app.launcher.1 app.clicks queued).exits with
      | true => simp [hseen]
      | false =>
        -- both go on from what has been asked and from the clicks remembered
        simp only [Bool.false_eq_true, if_false, List.filterMap_cons, hseen]
        rw [ih _ (by simpa only [hsame] using hlater), hasked, hclicks hreport]

/-- The passes among the calls of wakes are those with their queues. -/
theorem filterMap_queued?_callsOf (toolkit : Toolkit) (world : World) (wakes : List Wake) :
    (wakes.flatMap (toolkit.callsOf world)).filterMap LoopCall.queued? = wakes.map (·.queued) := by
  induction wakes with
  | nil => rfl
  | cons wake wakes ih =>
    have hwake : (toolkit.callsOf world wake).filterMap LoopCall.queued? = [wake.queued] := by
      rw [Toolkit.callsOf]
      cases wake.resumed <;> cases wake.windowEvent <;> rfl
    rw [List.flatMap_cons, List.filterMap_append, ih, hwake, List.map_cons, List.singleton_append]

/-- The whole run: the loop makes no pass if it cannot be made or the icon cannot
be built, and else the passes of its wakes. -/
theorem run_visits (toolkit : Toolkit) (world : World) (wakes : List Wake) (launcher : σ) :
    (toolkit.run world indicator.noting wakes ([], launcher)).visits.filterMap
        Visit.passReport? =
      if toolkit.hasEventLoop && (buildIcon world indicator.settings toolkit.answers).1.isOk then
        passReports indicator [] .start (wakes.map (·.queued))
      else [] := by
  cases hloop : toolkit.hasEventLoop with
  | false => simp [Toolkit.run, hloop]
  | true =>
    have hsettings : indicator.noting.settings = indicator.settings := rfl
    simp only [Toolkit.run, hloop, if_true, App.visits, Bool.true_and]
    cases hbuilt : buildIcon world indicator.settings toolkit.answers with
    | mk result told =>
      cases result with
      | error error =>
        simp [App.answer, App.resume, App.start, hsettings, hbuilt, untilExit, Visit.passReport?,
          LoopCall.queued?, Except.isOk, Except.toBool]
      | ok icon =>
        have hrest := untilExit_visits indicator (wakes.flatMap (toolkit.callsOf world))
          { App.start (([], launcher) : List Call × σ) with icons := [icon] } fun _ _ _ => rfl
        rw [filterMap_queued?_callsOf] at hrest
        simpa [App.answer, App.resume, App.start, hsettings, hbuilt, untilExit,
          Visit.passReport?, LoopCall.queued?, List.filterMap_cons, Except.isOk,
          Except.toBool] using hrest

/-- Runs of the loop do what the dispatch table says, with any launcher. From any
application and for any passes, each pass has asked for the opens of its menu
ids, the spawns of its clicks that count, and one collection of children, in this
order; a quit id cuts the pass and the run short. The same holds of a whole run
of the loop with everything else that it calls, and a pass asks to exit exactly
if a quit id is queued. -/
theorem passes_follow_dispatch_table :
    (∀ (app : App (List Call × σ)) (passes : List Queues),
      (untilExit (App.visits indicator.noting (passes.map .aboutToWait) app)).filterMap
          Visit.passReport? =
        passReports indicator app.launcher.1 app.clicks passes) ∧
    (∀ (toolkit : Toolkit) (world : World) (wakes : List Wake) (launcher : σ),
      (toolkit.run world indicator.noting wakes ([], launcher)).visits.filterMap
          Visit.passReport? =
        if toolkit.hasEventLoop && (buildIcon world indicator.settings toolkit.answers).1.isOk then
          passReports indicator [] .start (wakes.map (·.queued))
        else []) ∧
    ∀ (app : App (List Call × σ)) (queued : Queues),
      (App.answer indicator.noting (.aboutToWait queued) app).exits = true ↔
        "quit" ∈ queued.menu := by
  refine ⟨fun app passes => ?_, run_visits indicator, fun app queued => ?_⟩
  · have hnever (world answers) :
        LoopCall.resumed world answers ∉ passes.map LoopCall.aboutToWait := by simp
    have hpasses : (passes.map LoopCall.aboutToWait).filterMap LoopCall.queued? = passes := by
      rw [List.filterMap_map]
      exact List.filterMap_some
    rw [untilExit_visits indicator _ app fun world answers h => absurd h (hnever world answers),
      hpasses]
  · obtain ⟨_, hexits, _⟩ := answer_aboutToWait indicator queued app
    rw [hexits, passReport]
    by_cases hquit : "quit" ∈ queued.menu
    · simp [hquit]
    · simp [hquit]

end Steps

end TrayIndicator.Tray
