import TrayIndicator.Indicator

/-!
# The dispatch table

What the indicator does at an event is told by a table that knows nothing of
the launcher: the flow, the request that is made, and the events that are told
whatever comes of it. The launcher decides only the state and the warnings.
-/

namespace TrayIndicator

/-- An id finds the entry that has it, and no other id finds one. -/
theorem MenuAction.ofId?_eq (id : String) :
    MenuAction.ofId? id =
      if id = MenuAction.openLogFile.id then some .openLogFile
      else if id = MenuAction.quit.id then some .quit
      else none := by
  by_cases hopen : id = MenuAction.openLogFile.id
  · rw [if_pos hopen, hopen]
    exact ofId?_id .openLogFile
  · rw [if_neg hopen]
    by_cases hquit : id = MenuAction.quit.id
    · rw [if_pos hquit, hquit]
      exact ofId?_id .quit
    · rw [if_neg hquit]
      have hopen' : (MenuAction.openLogFile.id == id) = false :=
        beq_eq_false_iff_ne.mpr (Ne.symm hopen)
      have hquit' : (MenuAction.quit.id == id) = false :=
        beq_eq_false_iff_ne.mpr (Ne.symm hquit)
      simp only [ofId?, all, List.find?_cons, hopen', hquit', List.find?_nil]

/-- The menu entry that an event chooses, directly or by its id. -/
def IndicatorEvent.action? : IndicatorEvent → Option MenuAction
  | .menu action => some action
  | .menuId id => MenuAction.ofId? id
  | .activate _ => none
  | .tick => none

/-- What the event loop does after an event; the periodic work decides nothing. -/
def IndicatorEvent.flow? : IndicatorEvent → Option Flow
  | .tick => none
  | event => some (if event.action? = some .quit then .exit else .proceed)

/-- The events that are told of a chosen entry whatever comes of it. -/
def MenuAction.announcements : MenuAction → List LogEvent
  | .openLogFile => [Indicator.chosenEvent .openLogFile]
  | .quit => [Indicator.chosenEvent .quit, Indicator.quitEvent]

/-- The events that are told of an event whatever comes of it. -/
def IndicatorEvent.announcements : IndicatorEvent → List LogEvent
  | .menu action => action.announcements
  | .menuId id =>
    match MenuAction.ofId? id with
    | some action => action.announcements
    | none => [⟨.debug, .dispatch, "Ignoring unknown menu id", [("id", id)]⟩]
  | .activate reason => [Indicator.activatedEvent reason]
  | .tick => []

/-- Nothing that is told of a chosen entry whatever comes of it is a warning. -/
theorem MenuAction.level_announcements (action : MenuAction) :
    ∀ told ∈ action.announcements, told.level ≠ .warn := by
  cases action <;> simp [announcements, Indicator.chosenEvent, Indicator.quitEvent]

/-- Nothing that is told whatever comes of an event is a warning. -/
theorem IndicatorEvent.level_announcements (event : IndicatorEvent) :
    ∀ told ∈ event.announcements, told.level ≠ .warn := by
  cases event with
  | menu action => exact action.level_announcements
  | menuId id =>
    cases hid : MenuAction.ofId? id with
    | none => simp [announcements, hid]
    | some action =>
      simp only [announcements, hid]
      exact action.level_announcements
  | activate reason => simp [announcements, Indicator.activatedEvent]
  | tick => simp [announcements]

namespace Indicator

variable {σ : Type} (indicator : Indicator σ)

/-- What an event asks the launcher to start, if anything. -/
def request? : IndicatorEvent → Option Request
  | .activate .trigger => some indicator.companionRequest
  | event => if event.action? = some .openLogFile then some indicator.openRequest else none

/-- Everything that an event asks of the launcher. -/
def calls : IndicatorEvent → List Call
  | .tick => [.reap]
  | event => (indicator.request? event).toList.map .start

/-- The periodic work collects children and does nothing else. -/
theorem handle_tick (state : σ) :
    indicator.handle .tick state =
      let step := indicator.launcher.reap state
      ⟨none, step.state, step.events⟩ := rfl

/-- An event with a request makes it once, and tells what came of it after the
events that are told in any case. -/
theorem handle_of_request?_eq_some {event : IndicatorEvent} {request : Request}
    (hrequest : indicator.request? event = some request) (state : σ) :
    indicator.handle event state =
      let step := indicator.launcher.start request state
      ⟨event.flow?, step.state,
        event.announcements ++ (step.events ++ warnings request step.answer)⟩ := by
  cases event with
  | menu action =>
    cases action with
    | openLogFile => cases hrequest; rfl
    | quit => cases hrequest
  | menuId id =>
    cases hid : MenuAction.ofId? id with
    | none => simp [request?, IndicatorEvent.action?, hid] at hrequest
    | some action =>
      cases action with
      | openLogFile =>
        simp only [request?, IndicatorEvent.action?, hid, if_true, Option.some.injEq] at hrequest
        subst hrequest
        simp [handle, onMenuId, onMenu, Indicator.request, IndicatorEvent.flow?,
          IndicatorEvent.action?, IndicatorEvent.announcements, MenuAction.announcements, hid]
      | quit => simp [request?, IndicatorEvent.action?, hid] at hrequest
  | activate reason =>
    cases reason with
    | trigger => cases hrequest; rfl
    | doubleClick | context | middleClick => cases hrequest
  | tick => cases hrequest

/-- An event without a request leaves the launcher alone, unless it is the
periodic work. -/
theorem handle_of_request?_eq_none {event : IndicatorEvent}
    (hrequest : indicator.request? event = none) (htick : event ≠ .tick) (state : σ) :
    indicator.handle event state = ⟨event.flow?, state, event.announcements⟩ := by
  cases event with
  | menu action =>
    cases action with
    | openLogFile => cases hrequest
    | quit => rfl
  | menuId id =>
    cases hid : MenuAction.ofId? id with
    | none =>
      simp [handle, onMenuId, IndicatorEvent.flow?, IndicatorEvent.action?,
        IndicatorEvent.announcements, hid]
    | some action =>
      cases action with
      | openLogFile => simp [request?, IndicatorEvent.action?, hid] at hrequest
      | quit =>
        simp [handle, onMenuId, onMenu, IndicatorEvent.flow?, IndicatorEvent.action?,
          IndicatorEvent.announcements, MenuAction.announcements, hid]
  | activate reason =>
    cases reason with
    | trigger => cases hrequest
    | doubleClick | context | middleClick => rfl
  | tick => exact absurd rfl htick

/-- The flow of an event is that of the table, whatever the launcher does. -/
theorem handle_answer (event : IndicatorEvent) (state : σ) :
    (indicator.handle event state).answer = event.flow? := by
  by_cases htick : event = .tick
  · rw [htick]
    rfl
  · cases hrequest : indicator.request? event with
    | none => rw [handle_of_request?_eq_none indicator hrequest htick]
    | some request => rw [handle_of_request?_eq_some indicator hrequest]

/-- What an event asks is its request, unless it is the periodic work. -/
theorem calls_of_ne_tick {event : IndicatorEvent} (htick : event ≠ .tick) :
    indicator.calls event = (indicator.request? event).toList.map .start := by
  cases event with
  | menu action | menuId id | activate reason => rfl
  | tick => exact absurd rfl htick

/-- A menu id asks to open the log if it is the id of that entry, and nothing
else. -/
theorem calls_menuId (id : String) :
    indicator.calls (.menuId id) =
      if id = MenuAction.openLogFile.id then [.start indicator.openRequest] else [] := by
  rw [calls_of_ne_tick indicator (by simp)]
  by_cases hopen : id = MenuAction.openLogFile.id
  · rw [if_pos hopen, hopen]
    rfl
  · have haction : MenuAction.ofId? id ≠ some .openLogFile := fun h =>
      hopen (MenuAction.id_of_ofId? h).symm
    rw [if_neg hopen]
    simp [request?, IndicatorEvent.action?, haction]

/-- The same indicator, with notes of what it asks its launcher. -/
def noting : Indicator (List Call × σ) :=
  ⟨indicator.settings, indicator.home, indicator.launcher.noting⟩

/-- What is noted at an event is what the table says, whatever the launcher
answers. -/
theorem noting_handle_calls (event : IndicatorEvent) (state : List Call × σ) :
    (indicator.noting.handle event state).state.1 = state.1 ++ indicator.calls event := by
  by_cases htick : event = .tick
  · rw [htick]
    rfl
  · rw [calls_of_ne_tick indicator htick]
    cases hrequest : indicator.request? event with
    | none =>
      have hnone : indicator.noting.request? event = none := hrequest
      rw [handle_of_request?_eq_none _ hnone htick]
      simp
    | some request =>
      have hsome : indicator.noting.request? event = some request := hrequest
      rw [handle_of_request?_eq_some _ hsome]
      rfl

end Indicator

end TrayIndicator
