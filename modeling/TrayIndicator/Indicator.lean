import TrayIndicator.Launcher
import TrayIndicator.Menu
import TrayIndicator.Settings.Home
import TrayIndicator.Tray.Click

/-!
# What the indicator does

Every desktop's events end up here as menu actions and activations. Opening
the log and starting the companion are requests to a launcher; a failed
request is told in the log and changes nothing else. Only the quit entry ends
the indicator.
-/

namespace TrayIndicator

open Tray

/-- What the event loop does after an event. -/
inductive Flow where
  /-- It goes on. -/
  | proceed
  /-- It ends. -/
  | exit
  deriving DecidableEq, Repr

/-- The indicator: its settings, the home directory and its launcher. The
launcher's state is passed from step to step. -/
structure Indicator (σ : Type) where
  /-- The settings it runs with. -/
  settings : Settings
  /-- The home directory, if there is one. -/
  home : Option Path
  /-- How it starts programs. -/
  launcher : Launcher σ

namespace Indicator

variable {σ : Type} (indicator : Indicator σ)

/-- What the opener is given. -/
def target : Path := indicator.settings.logTarget indicator.home

/-- The request behind the entry that opens the log. -/
def openRequest : Request := .open indicator.settings.opener indicator.target

/-- The request behind a primary click. -/
def companionRequest : Request := .spawn indicator.settings.companion

/-- The warning about a failed request. -/
def warning (request : Request) (error : IoError) : LogEvent :=
  match request with
  | .open opener target =>
    ⟨.warn, .dispatch, "Failed to open log file",
      [("opener", opener), ("path", target.shown), ("error", error.text)]⟩
  | .spawn program =>
    ⟨.warn, .dispatch, "Failed to launch companion GUI",
      [("program", program), ("error", error.text)]⟩

/-- The warnings that follow a request: one if it failed. -/
def warnings (request : Request) : Except IoError Unit → List LogEvent
  | .ok _ => []
  | .error error => [warning request error]

/-- Makes a request; a failure is told and otherwise ignored. -/
def request (request : Request) (state : σ) : Step σ Flow :=
  let step := indicator.launcher.start request state
  ⟨.proceed, step.state, step.events ++ warnings request step.answer⟩

/-- The event of a chosen menu entry. -/
def chosenEvent (action : MenuAction) : LogEvent :=
  ⟨.debug, .dispatch, "Menu action selected", [("action", action.id)]⟩

/-- The event of the quit entry. -/
def quitEvent : LogEvent :=
  ⟨.info, .dispatch, "User quit the indicator from the tray menu", []⟩

/-- Answers the choice of a menu entry. -/
def onMenu (action : MenuAction) (state : σ) : Step σ Flow :=
  match action with
  | .openLogFile =>
    let step := indicator.request indicator.openRequest state
    { step with events := chosenEvent action :: step.events }
  | .quit => ⟨.exit, state, [chosenEvent action, quitEvent]⟩

/-- Answers a menu event by the id it names. An unknown id is ignored. -/
def onMenuId (id : String) (state : σ) : Step σ Flow :=
  match MenuAction.ofId? id with
  | some action => indicator.onMenu action state
  | none =>
    ⟨.proceed, state, [⟨.debug, .dispatch, "Ignoring unknown menu id", [("id", id)]⟩]⟩

/-- The event of an activation. -/
def activatedEvent (reason : Activation) : LogEvent :=
  ⟨.debug, .dispatch, "Tray icon activated", [("reason", reason.name)]⟩

/-- Answers an activation. Only a primary click starts something. -/
def onActivation (reason : Activation) (state : σ) : Step σ Flow :=
  if reason = .trigger then
    let step := indicator.request indicator.companionRequest state
    { step with events := activatedEvent reason :: step.events }
  else ⟨.proceed, state, [activatedEvent reason]⟩

/-- The periodic work: children that have ended are collected. -/
def tick (state : σ) : Step σ Unit := indicator.launcher.reap state

/-- No activation ends the indicator. -/
theorem onActivation_answer (reason : Activation) (state : σ) :
    (indicator.onActivation reason state).answer = .proceed := by
  unfold onActivation
  split <;> rfl

/-- Exactly the quit entry ends the indicator. -/
theorem onMenu_answer (action : MenuAction) (state : σ) :
    (indicator.onMenu action state).answer = .exit ↔ action = .quit := by
  cases action <;> simp [onMenu, request]

end Indicator

/-- An event as the indicator takes it, whatever the desktop. -/
inductive IndicatorEvent where
  /-- A menu entry was chosen. -/
  | menu (action : MenuAction)
  /-- A menu event named an id. -/
  | menuId (id : String)
  /-- The icon was activated. -/
  | activate (reason : Activation)
  /-- The periodic work is due. -/
  | tick
  deriving DecidableEq, Repr

namespace Indicator

variable {σ : Type} (indicator : Indicator σ)

/-- Answers an event. The periodic work answers with no flow. -/
def handle (event : IndicatorEvent) (state : σ) : Step σ (Option Flow) :=
  match event with
  | .menu action =>
    let step := indicator.onMenu action state
    ⟨some step.answer, step.state, step.events⟩
  | .menuId id =>
    let step := indicator.onMenuId id state
    ⟨some step.answer, step.state, step.events⟩
  | .activate reason =>
    let step := indicator.onActivation reason state
    ⟨some step.answer, step.state, step.events⟩
  | .tick =>
    let step := indicator.tick state
    ⟨none, step.state, step.events⟩

/-- Answers events one after the other. -/
def run : List IndicatorEvent → σ → List (Step σ (Option Flow))
  | [], _ => []
  | event :: events, state =>
    let step := indicator.handle event state
    step :: run events step.state

end Indicator

end TrayIndicator
