import TrayIndicator.Proofs.Tray.Callbacks
import TrayIndicator.Proofs.Tray.Passes

/-!
# Two ways to the same indicator

A status item answers each callback at once; the application of an event loop
finds what its toolkit has queued since the last pass. A sequence of callbacks
and the native events of the same gestures lead to the same requests up to the
first choice of the quit entry, where both ask for the end. Hovering and the
secondary button may come in anywhere, and a pass may end within a click.

A pass that holds menu events beside clicks is not covered: it answers all menu
events first. Nor are double clicks, which no callback reports.
-/

namespace TrayIndicator.Tray

/-- What a toolkit reports: a menu event with its id, or an event of the icon. -/
inductive NativeEvent where
  | menu (id : String)
  | icon (event : IconEvent)
  deriving DecidableEq

/-- The native events of the gesture behind a callback. -/
def Callback.native : Callback → List NativeEvent
  | .activate _ _ => [.icon (.button .left false), .icon (.button .left true)]
  | .secondaryActivate _ _ => [.icon (.button .middle false), .icon (.button .middle true)]
  | .choose action => [.menu action.id]

namespace NativeEvent

/-- The id that a menu event names. -/
def id? : NativeEvent → Option String
  | .menu id => some id
  | .icon _ => none

/-- The event of the icon, if it is one. -/
def icon? : NativeEvent → Option IconEvent
  | .menu _ => none
  | .icon event => some event

/-- Is it hovering, or anything about the secondary button? -/
def isIdle : NativeEvent → Bool
  | .icon .enter | .icon .move | .icon .leave => true
  | .icon (.button .right _) | .icon (.doubleClick .right) => true
  | _ => false

/-- The menu event of the quit entry. -/
def quit : NativeEvent := .menu MenuAction.quit.id

end NativeEvent

/-- The events before the first that chooses the quit entry. -/
def beforeQuit (events : List NativeEvent) : List NativeEvent :=
  events.takeWhile (· ≠ NativeEvent.quit)

/-- Does the menu event of the quit entry come in a pass? -/
def holdsQuit (pass : List NativeEvent) : Bool := pass.contains NativeEvent.quit

/-- The queues that a pass finds when these events came before it. -/
def queuesOf (events : List NativeEvent) : Queues :=
  ⟨events.filterMap NativeEvent.id?, events.filterMap NativeEvent.icon?⟩

theorem queuesOf_cons_menu (id : String) (events : List NativeEvent) :
    queuesOf (.menu id :: events) = ⟨id :: (queuesOf events).menu, (queuesOf events).icon⟩ := rfl

theorem queuesOf_cons_icon (event : IconEvent) (events : List NativeEvent) :
    queuesOf (.icon event :: events) = ⟨(queuesOf events).menu, event :: (queuesOf events).icon⟩ :=
  rfl

/-- Do passes bring the native events of callbacks? Apart from idle events they
are those of the callbacks in their order, and no pass has menu events beside
clicks that belong to gestures. -/
structure Delivers (callbacks : List Callback) (passes : List (List NativeEvent)) : Prop where
  /-- The events are those of the callbacks, and idle ones. -/
  events : passes.flatten.filter (fun event => !event.isIdle) =
    callbacks.flatMap Callback.native
  /-- A pass has no menu events, or idle events beside them only. -/
  apart : ∀ pass ∈ passes, (∀ event ∈ pass, event.id? = none) ∨
    ∀ event ∈ pass, event.id? = none → event.isIdle = true

/-- The elements up to the first with a property, and that one. -/
def upToFirst {α : Type} (stops : α → Bool) : List α → List α
  | [] => []
  | a :: rest => if stops a then [a] else a :: upToFirst stops rest

/-- The requests among calls. -/
def requestsOf (calls : List Call) : List Request :=
  calls.filterMap fun
    | .start request => some request
    | .reap => none

/-- The passes of an application, up to the first that asks to exit. -/
def passesOf {σ : Type} (indicator : Indicator σ) (passes : List (List NativeEvent))
    (app : App σ) : List (Visit σ) :=
  untilExit (App.visits indicator (passes.map fun pass => .aboutToWait (queuesOf pass)) app)

/-- The application after visits. -/
def appAfter {σ : Type} (visits : List (Visit σ)) (app : App σ) : App σ :=
  (visits.getLast?.map (·.app)).getD app

theorem appAfter_cons {σ : Type} (visit : Visit σ) (visits : List (Visit σ)) (app : App σ) :
    appAfter (visit :: visits) app = appAfter visits visit.app := by
  rw [appAfter, appAfter, List.getLast?_cons]
  cases visits.getLast? <;> rfl

section Before

theorem beforeQuit_cons_of_ne {event : NativeEvent} (h : event ≠ .quit)
    (events : List NativeEvent) : beforeQuit (event :: events) = event :: beforeQuit events := by
  simp [beforeQuit, h]

theorem beforeQuit_append_of_not_mem {events : List NativeEvent} (h : .quit ∉ events)
    (later : List NativeEvent) : beforeQuit (events ++ later) = events ++ beforeQuit later := by
  induction events with
  | nil => rfl
  | cons event events ih =>
    rw [List.mem_cons, not_or] at h
    rw [List.cons_append, beforeQuit_cons_of_ne (Ne.symm h.1), ih h.2, List.cons_append]

theorem beforeQuit_append_of_mem {events : List NativeEvent} (h : .quit ∈ events)
    (later : List NativeEvent) : beforeQuit (events ++ later) = beforeQuit events := by
  induction events with
  | nil => cases h
  | cons event events ih =>
    by_cases hquit : event = .quit
    · simp [beforeQuit, hquit]
    · have hrest := ih (List.mem_of_ne_of_mem (Ne.symm hquit) h)
      rw [List.cons_append, beforeQuit_cons_of_ne hquit, beforeQuit_cons_of_ne hquit, hrest]

theorem beforeQuit_eq_self {events : List NativeEvent} (h : .quit ∉ events) :
    beforeQuit events = events := by
  have happend := beforeQuit_append_of_not_mem h []
  rwa [List.append_nil, show beforeQuit [] = [] from rfl, List.append_nil] at happend

end Before

section Events

variable {σ : Type} (indicator : Indicator σ)

/-- What a native event asks of the launcher when no click is swallowed. -/
def NativeEvent.calls : NativeEvent → List Call
  | .menu id => indicator.calls (.menuId id)
  | .icon (.button .left true) => indicator.calls (.activate .trigger)
  | .icon _ => []

/-- Idle events ask nothing. -/
theorem NativeEvent.calls_of_isIdle {event : NativeEvent} (h : event.isIdle = true) :
    event.calls indicator = [] := by
  cases event with
  | menu id => cases h
  | icon event =>
    cases event with
    | button which released =>
      cases which with
      | left | middle => cases h
      | right => rfl
    | doubleClick which | enter | move | leave => rfl

/-- Clicks ask for themselves when none of them is a double click of the primary
button, and leave nothing to remember. -/
theorem spawns_start (events : List IconEvent) (h : .doubleClick .left ∉ events) :
    spawns indicator .start events =
        events.flatMap (fun event => NativeEvent.calls indicator (.icon event)) ∧
      ClickFilter.start.after (clicksOf events) = .start := by
  induction events with
  | nil => exact ⟨rfl, rfl⟩
  | cons event events ih =>
    obtain ⟨hspawns, hafter⟩ := ih fun hm => h (List.mem_cons_of_mem event hm)
    have hevent : event ≠ .doubleClick .left := fun heq => h (heq ▸ List.mem_cons_self)
    cases hclick : event.click? with
    | none =>
      have hnothing : NativeEvent.calls indicator (.icon event) = [] := by
        cases event with
        | button which released => cases released <;> cases hclick
        | doubleClick which => cases hclick
        | enter | move | leave => rfl
      have hstream : clicksOf (event :: events) = clicksOf events := by simp [clicksOf, hclick]
      rw [spawns_cons_of_none indicator .start events hclick, List.flatMap_cons, hnothing, hspawns,
        hstream]
      exact ⟨rfl, hafter⟩
    | some click =>
      -- a release counts since nothing is swallowed, and no click changes that
      have hclickCalls : (ClickFilter.start.step click).2 = .start ∧
          ((ClickFilter.start.step click).1.toList.flatMap fun reason =>
            indicator.calls (.activate reason)) = NativeEvent.calls indicator (.icon event) := by
        cases event with
        | button which released =>
          cases released <;> cases hclick <;> cases which <;> exact ⟨rfl, rfl⟩
        | doubleClick which =>
          cases hclick
          cases which with
          | left => exact absurd rfl hevent
          | right | middle => exact ⟨rfl, rfl⟩
        | enter | move | leave => cases hclick
      have hstream : ClickFilter.start.after (clicksOf (event :: events)) =
          (ClickFilter.start.step click).2.after (clicksOf events) := by
        simp [ClickFilter.after, clicksOf, hclick]
      rw [spawns_cons_of_some indicator .start events hclick, hclickCalls.2, hstream,
        hclickCalls.1, hspawns, List.flatMap_cons]
      exact ⟨rfl, hafter⟩

/-- The quit entry's id is queued exactly if its menu event came. -/
theorem mem_queuesOf_menu (pass : List NativeEvent) :
    "quit" ∈ (queuesOf pass).menu ↔ NativeEvent.quit ∈ pass := by
  rw [queuesOf, List.mem_filterMap]
  constructor
  · rintro ⟨event, hmem, hid⟩
    cases event with
    | menu id => cases hid; exact hmem
    | icon event => cases hid
  · exact fun hmem => ⟨NativeEvent.quit, hmem, rfl⟩

/-- The ids before the first quit id are those of the events before the first
quit event. -/
theorem takeWhile_queuesOf_menu (pass : List NativeEvent) :
    (queuesOf pass).menu.takeWhile (· ≠ "quit") =
      (queuesOf (beforeQuit pass)).menu := by
  induction pass with
  | nil => rfl
  | cons event pass ih =>
    cases event with
    | menu id =>
      rw [queuesOf_cons_menu]
      by_cases hid : id = "quit"
      · simp [hid, queuesOf, beforeQuit, NativeEvent.quit, MenuAction.id]
      · have hevent : NativeEvent.menu id ≠ .quit := fun h => hid (NativeEvent.menu.inj h)
        rw [beforeQuit_cons_of_ne hevent, queuesOf_cons_menu, ← ih]
        simp [hid]
    | icon event =>
      have hevent : NativeEvent.icon event ≠ .quit := by simp [NativeEvent.quit]
      rw [queuesOf_cons_icon, beforeQuit_cons_of_ne hevent, queuesOf_cons_icon, ← ih]

/-- Menu events ask for themselves when all other events are idle. -/
theorem opens_queuesOf (pass : List NativeEvent)
    (h : ∀ event ∈ pass, event.id? = none → event.isIdle = true) :
    opens indicator (queuesOf pass).menu = pass.flatMap (NativeEvent.calls indicator) := by
  induction pass with
  | nil => rfl
  | cons event pass ih =>
    have hrest := ih fun other hm => h other (List.mem_cons_of_mem event hm)
    cases event with
    | menu id =>
      rw [queuesOf_cons_menu, opens_cons, hrest, List.flatMap_cons]
      rfl
    | icon event =>
      have hidle := h (.icon event) List.mem_cons_self rfl
      rw [queuesOf_cons_icon, hrest, List.flatMap_cons,
        NativeEvent.calls_of_isIdle indicator hidle, List.nil_append]

/-- The icon's events among those of a pass, without the menu events. -/
theorem mem_queuesOf_icon {pass : List NativeEvent} {event : IconEvent} :
    event ∈ (queuesOf pass).icon ↔ .icon event ∈ pass := by
  rw [queuesOf, List.mem_filterMap]
  constructor
  · rintro ⟨other, hmem, hicon⟩
    cases other with
    | menu id => cases hicon
    | icon other => cases hicon; exact hmem
  · exact fun hmem => ⟨.icon event, hmem, rfl⟩

/-- The clicks of a pass ask for themselves when it has no menu events, and for
nothing when they are idle. -/
theorem spawns_queuesOf {pass : List NativeEvent} (hdouble : .icon (.doubleClick .left) ∉ pass) :
    ((∀ event ∈ pass, event.id? = none) →
      spawns indicator .start (queuesOf pass).icon =
        pass.flatMap (NativeEvent.calls indicator)) ∧
    ((∀ event ∈ pass, event.id? = none → event.isIdle = true) →
      spawns indicator .start (queuesOf pass).icon = []) := by
  have hqueue : .doubleClick .left ∉ (queuesOf pass).icon := mem_queuesOf_icon.not.mpr hdouble
  rw [(spawns_start indicator _ hqueue).1]
  constructor
  · intro hicons
    clear hdouble hqueue
    induction pass with
    | nil => rfl
    | cons event pass ih =>
      have hrest := ih fun other hm => hicons other (List.mem_cons_of_mem event hm)
      cases event with
      | menu id => cases hicons (.menu id) List.mem_cons_self
      | icon event =>
        rw [queuesOf_cons_icon, List.flatMap_cons, List.flatMap_cons, hrest]
  · intro hidle
    rw [List.flatMap_eq_nil_iff]
    exact fun event hm =>
      NativeEvent.calls_of_isIdle indicator (hidle (.icon event) (mem_queuesOf_icon.mp hm) rfl)

end Events

section Passes

variable {σ : Type} (indicator : Indicator σ)

theorem requestsOf_append (before after : List Call) :
    requestsOf (before ++ after) = requestsOf before ++ requestsOf after :=
  List.filterMap_append

/-- One pass asks for what its events before the first quit event ask, and asks
to exit exactly if there is one. Otherwise no click is remembered. -/
theorem passReport_queuesOf (earlier : List Call) {pass : List NativeEvent}
    (hdouble : .icon (.doubleClick .left) ∉ pass)
    (hapart : (∀ event ∈ pass, event.id? = none) ∨
      ∀ event ∈ pass, event.id? = none → event.isIdle = true) :
    let report := passReport indicator earlier .start (queuesOf pass)
    report.exits = holdsQuit pass ∧
      requestsOf report.asked = requestsOf earlier ++
        requestsOf ((beforeQuit pass).flatMap (NativeEvent.calls indicator)) ∧
      ClickFilter.start.after (clicksOf (queuesOf pass).icon) = .start := by
  have hfilter := (spawns_start indicator _ (mem_queuesOf_icon.not.mpr hdouble)).2
  obtain ⟨hclicks, hnoClicks⟩ := spawns_queuesOf indicator hdouble
  by_cases hquit : NativeEvent.quit ∈ pass
  · -- a pass with a quit event has menu events, so its clicks do not matter
    have hidle : ∀ event ∈ pass, event.id? = none → event.isIdle = true := by
      rcases hapart with hicons | hidle
      · cases hicons _ hquit
      · exact hidle
    have hopens := opens_queuesOf indicator (beforeQuit pass)
      fun event hm => hidle event ((List.takeWhile_sublist _).subset hm)
    rw [passReport, if_pos ((mem_queuesOf_menu pass).mpr hquit), takeWhile_queuesOf_menu, hopens]
    exact ⟨(List.contains_iff_mem.mpr hquit).symm, requestsOf_append _ _, hfilter⟩
  · have hasked : opens indicator (queuesOf pass).menu ++
        spawns indicator .start (queuesOf pass).icon =
          pass.flatMap (NativeEvent.calls indicator) := by
      rcases hapart with hicons | hidle
      · have hmenu : (queuesOf pass).menu = [] :=
          List.filterMap_eq_nil_iff.mpr hicons
        rw [hmenu, hclicks hicons]
        rfl
      · rw [hnoClicks hidle, opens_queuesOf indicator pass hidle, List.append_nil]
    rw [passReport, if_neg ((mem_queuesOf_menu pass).not.mpr hquit), hasked,
      beforeQuit_eq_self hquit]
    refine ⟨?_, ?_, hfilter⟩
    · simpa [holdsQuit] using hquit
    · rw [requestsOf_append, requestsOf_append]
      simp [requestsOf]

/-- The passes are the first one alone if it asks to exit. -/
theorem passesOf_cons (pass : List NativeEvent) (passes : List (List NativeEvent)) (app : App σ) :
    passesOf indicator (pass :: passes) app =
      let visit := app.answer indicator (.aboutToWait (queuesOf pass))
      if visit.exits then [visit] else visit :: passesOf indicator passes visit.app := rfl

/-- The passes go on up to the first with a quit event, and ask for what the
events before it ask. -/
theorem passesOf_noting (passes : List (List NativeEvent)) (app : App (List Call × σ))
    (hclicks : app.clicks = .start)
    (hdouble : ∀ pass ∈ passes, .icon (.doubleClick .left) ∉ pass)
    (hapart : ∀ pass ∈ passes, (∀ event ∈ pass, event.id? = none) ∨
      ∀ event ∈ pass, event.id? = none → event.isIdle = true) :
    let visits := passesOf indicator.noting passes app
    requestsOf (appAfter visits app).launcher.1 = requestsOf app.launcher.1 ++
        requestsOf ((beforeQuit passes.flatten).flatMap (NativeEvent.calls indicator)) ∧
      visits.map (fun visit => (visit.call.queued?, visit.exits)) =
        (upToFirst holdsQuit passes).map fun pass => (some (queuesOf pass), holdsQuit pass) := by
  -- no swallowed click is due before any pass, which the induction carries along
  induction passes generalizing app with
  | nil =>
    refine ⟨?_, rfl⟩
    simp [passesOf, App.visits, untilExit, appAfter, requestsOf, beforeQuit]
  | cons pass passes ih =>
    obtain ⟨_, hexits, hasked, _, hafter⟩ := answer_aboutToWait indicator (queuesOf pass) app
    rw [hclicks] at hexits hasked hafter
    obtain ⟨hquit, hrequests, hfilter⟩ := passReport_queuesOf indicator app.launcher.1
      (hdouble pass List.mem_cons_self) (hapart pass List.mem_cons_self)
    rw [← hasked] at hrequests
    rw [hquit] at hexits hafter
    rw [List.flatten_cons, passesOf_cons, upToFirst]
    by_cases hstops : holdsQuit pass = true
    · rw [hstops] at hexits
      rw [beforeQuit_append_of_mem (List.contains_iff_mem.mp hstops), if_pos hstops]
      simp only [hexits, if_true, appAfter_cons]
      exact ⟨hrequests, by rw [List.map_singleton, List.map_singleton, hexits, hstops]; rfl⟩
    · have hproceeds : holdsQuit pass = false := Bool.eq_false_iff.mpr hstops
      have hmem : NativeEvent.quit ∉ pass := fun hm => hstops (List.contains_iff_mem.mpr hm)
      rw [hproceeds] at hexits
      rw [beforeQuit_eq_self hmem] at hrequests
      obtain ⟨hlater, hvisits⟩ := ih (App.answer indicator.noting (.aboutToWait (queuesOf pass))
        app).app ((hafter hproceeds).trans hfilter)
        (fun other hm => hdouble other (List.mem_cons_of_mem pass hm))
        fun other hm => hapart other (List.mem_cons_of_mem pass hm)
      rw [beforeQuit_append_of_not_mem hmem, if_neg hstops, List.flatMap_append,
        requestsOf_append, ← List.append_assoc, ← hrequests]
      simp only [hexits, Bool.false_eq_true, if_false, appAfter_cons, List.map_cons, hvisits,
        hproceeds]
      exact ⟨hlater, rfl⟩

end Passes

section Gestures

variable {σ : Type} (indicator : Indicator σ)

/-- Idle events make no difference to what is asked. -/
theorem flatMap_calls_filter (events : List NativeEvent) :
    (beforeQuit (events.filter fun event => !event.isIdle)).flatMap
        (NativeEvent.calls indicator) =
      (beforeQuit events).flatMap (NativeEvent.calls indicator) := by
  induction events with
  | nil => rfl
  | cons event events ih =>
    by_cases hidle : event.isIdle = true
    · have hevent : event ≠ .quit := fun heq => by
        rw [heq] at hidle
        cases hidle
      rw [List.filter_cons_of_neg (by simp [hidle]), ih, beforeQuit_cons_of_ne hevent,
        List.flatMap_cons, NativeEvent.calls_of_isIdle indicator hidle, List.nil_append]
    · rw [List.filter_cons_of_pos (by simp [hidle])]
      by_cases hevent : event = .quit
      · simp [beforeQuit, hevent]
      · rw [beforeQuit_cons_of_ne hevent, beforeQuit_cons_of_ne hevent, List.flatMap_cons,
          List.flatMap_cons, ih]

/-- The quit event belongs to the callback that chooses the quit entry. -/
theorem quit_mem_native (callback : Callback) :
    NativeEvent.quit ∈ callback.native ↔ callback.quits = true := by
  cases callback with
  | activate x y | secondaryActivate x y => simp [Callback.native, Callback.quits, NativeEvent.quit]
  | choose action => cases action <;> decide

/-- The native events of a gesture ask what its callback asks. -/
theorem flatMap_calls_native (callback : Callback) :
    callback.native.flatMap (NativeEvent.calls indicator) = indicator.calls callback.event := by
  cases callback with
  | activate x y | secondaryActivate x y => rfl
  | choose action => cases action <;> rfl

/-- The native events of callbacks ask, before the first quit event, what the
callbacks up to the first choice of the quit entry ask. -/
theorem flatMap_calls_callbacks (callbacks : List Callback) :
    (beforeQuit (callbacks.flatMap Callback.native)).flatMap (NativeEvent.calls indicator) =
      (upToFirst Callback.quits callbacks).flatMap fun callback =>
        indicator.calls callback.event := by
  induction callbacks with
  | nil => rfl
  | cons callback callbacks ih =>
    rw [List.flatMap_cons, upToFirst]
    by_cases hquits : callback.quits = true
    · -- both sides end here, and the choice itself asks nothing
      have hnative : beforeQuit callback.native = [] := by
        cases callback with
        | activate x y | secondaryActivate x y => cases hquits
        | choose action =>
          cases action with
          | openLogFile => cases hquits
          | quit => rfl
      rw [beforeQuit_append_of_mem ((quit_mem_native callback).mpr hquits), hnative, if_pos hquits]
      simp [callback.calls_of_quits indicator hquits]
    · rw [beforeQuit_append_of_not_mem ((quit_mem_native callback).not.mpr hquits),
        if_neg hquits, List.flatMap_append, flatMap_calls_native, ih, List.flatMap_cons]

/-- Something has a property exactly if something up to the first that has it does. -/
theorem any_upToFirst {α : Type} (stops : α → Bool) (list : List α) :
    (upToFirst stops list).any stops = list.any stops := by
  induction list with
  | nil => rfl
  | cons a list ih =>
    rw [upToFirst]
    by_cases hstops : stops a = true
    · simp [hstops]
    · simp [hstops, ih]

namespace Delivers

variable {callbacks : List Callback} {passes : List (List NativeEvent)}

/-- Every event of a pass is idle or belongs to a callback. -/
theorem mem_native (h : Delivers callbacks passes) {pass : List NativeEvent}
    (hpass : pass ∈ passes) {event : NativeEvent} (hevent : event ∈ pass)
    (hidle : event.isIdle = false) : ∃ callback ∈ callbacks, event ∈ callback.native := by
  rw [← List.mem_flatMap, ← h.events, List.mem_filter]
  exact ⟨List.mem_flatten_of_mem hpass hevent, by rw [hidle]; rfl⟩

/-- No double click of the primary button comes. -/
theorem no_doubleClick (h : Delivers callbacks passes) {pass : List NativeEvent}
    (hpass : pass ∈ passes) : .icon (.doubleClick .left) ∉ pass := fun hm => by
  obtain ⟨callback, _, hnative⟩ := h.mem_native hpass hm rfl
  cases callback <;> simp [Callback.native] at hnative

/-- A quit event comes exactly if the quit entry is chosen. -/
theorem any_holdsQuit (h : Delivers callbacks passes) :
    passes.any holdsQuit = callbacks.any Callback.quits := by
  have hquit : NativeEvent.quit ∈ passes.flatten ↔
      NativeEvent.quit ∈ callbacks.flatMap Callback.native := by
    rw [← h.events, List.mem_filter]
    exact ⟨fun hm => ⟨hm, rfl⟩, fun hm => hm.1⟩
  rw [Bool.eq_iff_iff, List.any_eq_true, List.any_eq_true]
  simpa only [List.mem_flatten, List.mem_flatMap, quit_mem_native, holdsQuit,
    List.contains_iff_mem] using hquit

end Delivers

/-- The two ways to the indicator agree. With the same settings, whatever their
launchers answer, callbacks and passes with the native events of the same
gestures make the same requests up to the first choice of the quit entry. The
status item sends one token for each choice and none earlier, and the
application goes through its passes up to the one in which the first quit event
comes, where it asks to exit. -/
theorem backends_agree {σ τ : Type} (settings : Settings) (home : Option Path)
    (pixmap : Icon.Pixmap) (itemLauncher : Launcher σ) (appLauncher : Launcher τ)
    (itemState : σ) (appState : τ) (callbacks : List Callback)
    (passes : List (List NativeEvent)) (h : Delivers callbacks passes) :
    let item : StatusItem (List Call × σ) :=
      ⟨(⟨settings, home, itemLauncher⟩ : Indicator σ).noting, pixmap⟩
    let start := StatusItem.start ([], itemState)
    let app := App.start ([], appState)
    let visits := passesOf (⟨settings, home, appLauncher⟩ : Indicator τ).noting passes app
    requestsOf (appAfter visits app).launcher.1 =
        requestsOf (item.handleAll (upToFirst Callback.quits callbacks) start).state.launcher.1 ∧
      (∀ n, (item.handleAll (callbacks.take n) start).state.tokens =
        (callbacks.take n).countP Callback.quits) ∧
      visits.map (fun visit => (visit.call.queued?, visit.exits)) =
        (upToFirst holdsQuit passes).map (fun pass => (some (queuesOf pass), holdsQuit pass)) ∧
      visits.any (·.exits) = callbacks.any Callback.quits := by
  intro item start app visits
  obtain ⟨hasked, hvisits⟩ := passesOf_noting (⟨settings, home, appLauncher⟩ : Indicator τ) passes
    app rfl (fun pass hpass => h.no_doubleClick hpass) h.apart
  refine ⟨?_, ?_, hvisits, ?_⟩
  · rw [hasked, StatusItem.handleAll_noting, ← flatMap_calls_filter, h.events,
      flatMap_calls_callbacks]
    rfl
  · intro n
    rw [item.handleAll_tokens (callbacks.take n) rfl]
    exact Nat.zero_add _
  · have hexits := congrArg (List.any · (·.2)) hvisits
    simp only [List.any_map, Function.comp_def] at hexits
    rw [hexits, any_upToFirst, h.any_holdsQuit]

/-- A click that is cut in two by a pass, a hover and a secondary click starts the
companion once, a middle click does nothing, the log is opened although the first
start failed, and the click after the quit entry is left alone. -/
theorem backends_agree_on_divided_click :
    let callbacks : List Callback :=
      [.activate 3 4, .secondaryActivate 0 0, .choose .openLogFile, .choose .quit, .activate 1 1]
    let passes : List (List NativeEvent) :=
      [[.icon .enter, .icon (.button .left false)],
        [.icon (.button .right true), .icon (.button .left true), .icon .move],
        [.icon (.button .middle false), .icon (.button .middle true)],
        [.menu "open_log_file", .icon .leave, .menu "quit"],
        [.icon (.button .left false), .icon (.button .left true)]]
    let app : App (List Call × Recording) := App.start ([], ⟨[some .noChild], []⟩)
    let visits := passesOf
      (⟨.default, none, Launcher.scripted⟩ : Indicator Recording).noting passes app
    Delivers callbacks passes ∧
      requestsOf (appAfter visits app).launcher.1 =
        [.spawn "syncrop-gui", .open "xdg-open" (Path.ofText "~/.syncrop/syncrop.log")] ∧
      visits.map (·.exits) = [false, false, false, true] := by
  intro callbacks passes app visits
  have hdelivers : Delivers callbacks passes := ⟨by decide, by decide⟩
  obtain ⟨hrequests, _, hvisits, _⟩ := backends_agree .default none ⟨0, 0, []⟩ Launcher.scripted
    Launcher.scripted ⟨[some .noChild], []⟩ ⟨[some .noChild], []⟩ callbacks passes hdelivers
  have hexits := congrArg (List.map Prod.snd) hvisits
  rw [List.map_map] at hexits
  exact ⟨hdelivers, hrequests.trans (by decide), hexits.trans (by decide)⟩

end Gestures

end TrayIndicator.Tray
