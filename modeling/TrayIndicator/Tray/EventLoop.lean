import TrayIndicator.Indicator
import TrayIndicator.Icon.Load

/-!
# The tray icon of an event loop

On desktops without a session bus a toolkit shows the icon and queues what
happens to it. The loop resumes the application, which builds the icon the
first time, and lets it drain the queues before every wait. The application
asks to exit when the icon cannot be built and when the quit entry was chosen.
-/

namespace TrayIndicator.Tray

/-- What the toolkit reports about the icon. -/
inductive IconEvent where
  /-- A button was pressed or released. -/
  | button (button : Button) (released : Bool)
  /-- A button was clicked twice. -/
  | doubleClick (button : Button)
  /-- The pointer came, moved, or left. -/
  | enter | move | leave
  deriving DecidableEq, Repr

/-- The click that an event reports; hovering is none. -/
def IconEvent.click? : IconEvent → Option Click
  | .button which false => some (.press which)
  | .button which true => some (.release which)
  | .doubleClick which => some (.doubleClick which)
  | _ => none

/-- Why the toolkit built no icon. -/
inductive BuildFailure where
  /-- Icons are built on the main thread only. -/
  | notMainThread
  /-- The system failed. -/
  | system (cause : IoError)
  deriving DecidableEq, Repr

/-- Why the tray ended in failure. -/
inductive TrayError where
  /-- A menu entry could not be added. -/
  | menu
  /-- The icon could not be built. -/
  | build (failure : BuildFailure)
  /-- The event loop could not be made. -/
  | noEventLoop
  /-- The event loop ended with a code. -/
  | loopFailed (code : Int)
  deriving DecidableEq, Repr

/-- The text of a failure. -/
def TrayError.message : TrayError → String
  | .menu => "Menu error: This menu item is not a child of this `Menu` or `Submenu`"
  | .build .notMainThread => "Tray icon error: not on the main thread"
  | .build (.system cause) => "Tray icon error: " ++ cause.text
  | .noEventLoop => "Toolkit initialization failed: EventLoop can't be recreated"
  | .loopFailed code => "Toolkit initialization failed: Exit Failure: " ++ toString code

/-- How the toolkit answers one attempt to build the icon. -/
structure BuildAnswers where
  /-- The number of the menu entry that cannot be added, from 1 on. -/
  refusedEntry : Option Nat
  /-- The failure of making an image. -/
  image : Option IoError
  /-- The failure of building the icon. -/
  icon : Option BuildFailure

/-- An icon as the toolkit has built it. -/
structure TrayIcon where
  /-- The entries of its menu; all are enabled and have no shortcut. -/
  menu : List MenuAction
  /-- Does a primary click open the menu? -/
  menuOnLeftClick : Bool
  /-- The text beside the pointer. -/
  tooltip : String
  /-- Its image, unless none could be made. -/
  image : Option Icon.Image
  deriving DecidableEq, Repr

/-- The name of the kind of a failure as its long form shows it. -/
def causeDetail (cause : IoError) : String :=
  match cause with
  | .os code =>
    "Os \x7b code: " ++ toString code ++ ", kind: " ++ cause.kind.name ++ ", message: \"" ++
      systemText code ++ "\" \x7d"
  | .told kind text => "Custom \x7b kind: " ++ kind.name ++ ", error: \"" ++ text ++ "\" \x7d"

/-- The event of an image that could not be made. -/
def noImageEvent (cause : IoError) : LogEvent :=
  ⟨.warn, .tray, "Tray icon has no image",
    [("error", "Failed to create icon: OS error when instantiating the icon: " ++
      causeDetail cause)]⟩

/-- The event of a built icon. -/
def builtEvent (settings : Settings) : LogEvent :=
  ⟨.info, .tray, "System tray icon created", [("icon", settings.iconPath.shown)]⟩

/-- The event of an icon that could not be built. -/
def notBuiltEvent (error : TrayError) : LogEvent :=
  ⟨.error, .tray, "Failed to create tray icon", [("error", error.message)]⟩

/-- Builds the icon with its menu. An image that cannot be made costs only the
image. -/
def buildIcon (world : World) (settings : Settings) (answers : BuildAnswers) :
    Except TrayError TrayIcon × List LogEvent :=
  let refused : Bool :=
    match answers.refusedEntry with
    | some number => 1 ≤ number && number ≤ MenuAction.all.length
    | none => false
  if refused then (.error .menu, [])
  else
    let loaded := Icon.readOrPlaceholder world settings.iconPath
    let events := loaded.2 ++ (answers.image.map noImageEvent).toList
    match answers.icon with
    | some failure => (.error (.build failure), events)
    | none =>
      (.ok ⟨MenuAction.all, false, settings.tooltip,
        if answers.image.isSome then none else some loaded.1⟩,
        events ++ [builtEvent settings])

/-- The queues of the toolkit. -/
structure Queues where
  /-- The ids that menu events name. -/
  menu : List String
  /-- The events of the icon. -/
  icon : List IconEvent
  deriving DecidableEq, Repr

/-- The state of the application. -/
structure App (σ : Type) where
  /-- The state of the launcher. -/
  launcher : σ
  /-- What is remembered between clicks. -/
  clicks : ClickFilter
  /-- The icons built so far; there is at most one. -/
  icons : List TrayIcon
  /-- The failure of the last attempt to build the icon that failed. -/
  failure : Option TrayError

namespace App

variable {σ : Type}

/-- The application at the start. -/
def start (launcher : σ) : App σ := ⟨launcher, .start, [], none⟩

/-- Resumes the application: the icon is built unless it is there. The answer
is whether to go on. -/
def resume (world : World) (indicator : Indicator σ) (answers : BuildAnswers) (app : App σ) :
    Step (App σ) Flow :=
  if app.icons.isEmpty then
    match buildIcon world indicator.settings answers with
    | (.ok icon, events) => ⟨.proceed, { app with icons := app.icons ++ [icon] }, events⟩
    | (.error error, events) =>
      ⟨.exit, { app with failure := some error }, events ++ [notBuiltEvent error]⟩
  else ⟨.proceed, app, []⟩

/-- Answers menu events up to the one that asks to exit, and returns those that
are left. -/
def drainMenu (indicator : Indicator σ) : List String → σ → Step σ (Flow × List String)
  | [], launcher => ⟨(.proceed, []), launcher, []⟩
  | id :: ids, launcher =>
    let step := indicator.onMenuId id launcher
    if step.answer = .exit then ⟨(.exit, ids), step.state, step.events⟩
    else
      let later := drainMenu indicator ids step.state
      ⟨later.answer, later.state, step.events ++ later.events⟩

/-- Answers the events of the icon; no activation asks to exit. -/
def drainIcon (indicator : Indicator σ) : List IconEvent → ClickFilter → σ → Step σ ClickFilter
  | [], clicks, launcher => ⟨clicks, launcher, []⟩
  | event :: events, clicks, launcher =>
    match event.click? with
    | none => drainIcon indicator events clicks launcher
    | some click =>
      match clicks.step click with
      | (none, clicks) => drainIcon indicator events clicks launcher
      | (some reason, clicks) =>
        let step := indicator.onActivation reason launcher
        let later := drainIcon indicator events clicks step.state
        ⟨later.answer, later.state, step.events ++ later.events⟩

/-- Drains the queues before a wait: menu events first, then events of the
icon, then children are collected. The quit entry leaves the rest unread. The
answer is whether to go on, with what is left. -/
def drain (indicator : Indicator σ) (queues : Queues) (app : App σ) :
    Step (App σ) (Flow × Queues) :=
  let menu := drainMenu indicator queues.menu app.launcher
  match menu.answer with
  | (.exit, left) =>
    ⟨(.exit, ⟨left, queues.icon⟩), { app with launcher := menu.state }, menu.events⟩
  | (.proceed, left) =>
    let icon := drainIcon indicator queues.icon app.clicks menu.state
    let tick := indicator.tick icon.state
    ⟨(.proceed, ⟨left, []⟩), { app with launcher := tick.state, clicks := icon.answer },
      menu.events ++ icon.events ++ tick.events⟩

end App

/-- A call of the loop into the application. -/
inductive LoopCall where
  /-- The application is resumed, in the world as it is then; the toolkit has
  these answers to an attempt to build the icon. -/
  | resumed (world : World) (answers : BuildAnswers)
  /-- Something happened to a window; there are none. -/
  | windowEvent
  /-- The loop is about to wait, with these queues. -/
  | aboutToWait (queued : Queues)

/-- The name of a call. -/
def LoopCall.name : LoopCall → String
  | .resumed _ _ => "resumed"
  | .windowEvent => "window_event"
  | .aboutToWait _ => "about_to_wait"

/-- What was seen of one call. -/
structure Visit (σ : Type) where
  /-- The call. -/
  call : LoopCall
  /-- Does the call ask to exit? -/
  exits : Bool
  /-- Did the call set a time to wait for? -/
  waits : Bool
  /-- What is left in the queues. -/
  left : Queues
  /-- The application after the call. -/
  app : App σ
  /-- The events told. -/
  events : List LogEvent

namespace App

variable {σ : Type}

/-- Answers a call of the loop. -/
def answer (indicator : Indicator σ) (call : LoopCall) (app : App σ) : Visit σ :=
  match call with
  | .resumed world answers =>
    let step := app.resume world indicator answers
    ⟨call, step.answer = .exit, false, ⟨[], []⟩, step.state, step.events⟩
  | .windowEvent => ⟨call, false, false, ⟨[], []⟩, app, []⟩
  | .aboutToWait queued =>
    let step := app.drain indicator queued
    ⟨call, step.answer.1 = .exit, step.answer.1 = .proceed, step.answer.2, step.state,
      step.events⟩

/-- Answers calls one after the other. -/
def visits (indicator : Indicator σ) : List LoopCall → App σ → List (Visit σ)
  | [], _ => []
  | call :: calls, app =>
    let visit := app.answer indicator call
    visit :: visits indicator calls visit.app

/-- There is one visit for each call. -/
theorem visits_length (indicator : Indicator σ) (calls : List LoopCall) (app : App σ) :
    (visits indicator calls app).length = calls.length := by
  induction calls generalizing app with
  | nil => rfl
  | cons call calls ih => simp [visits, ih]

end App

/-- The visits up to the first that asks to exit. -/
def untilExit {σ : Type} : List (Visit σ) → List (Visit σ)
  | [] => []
  | visit :: visits => if visit.exits then [visit] else visit :: untilExit visits

/-- One wake of the loop: whether it resumes the application once more, whether
a window event comes, and what is queued then. -/
structure Wake where
  /-- Is the application resumed? -/
  resumed : Bool
  /-- Does a window event come? -/
  windowEvent : Bool
  /-- What is queued before the wait. -/
  queued : Queues

/-- The toolkit that runs the loop. -/
structure Toolkit where
  /-- Can an event loop be made? -/
  hasEventLoop : Bool
  /-- How it answers attempts to build the icon. -/
  answers : BuildAnswers
  /-- The code that the loop ends with, if it fails. -/
  exitCode : Option Int

/-- What a run of the loop came to. -/
structure LoopRun (σ : Type) where
  /-- The calls, up to the first that asked to exit. -/
  visits : List (Visit σ)
  /-- How the run ended. -/
  result : Except TrayError Unit
  /-- The events told before the first call. -/
  leading : List LogEvent

namespace Toolkit

variable {σ : Type} (toolkit : Toolkit)

/-- The calls of a wake. -/
def callsOf (world : World) (wake : Wake) : List LoopCall :=
  (if wake.resumed then [.resumed world toolkit.answers] else []) ++
    (if wake.windowEvent then [.windowEvent] else []) ++ [.aboutToWait wake.queued]

/-- How a run ends that leaves the application in a state. An error of the loop
hides a failure of the application. -/
def result (app : App σ) : Except TrayError Unit :=
  match toolkit.exitCode, app.failure with
  | some code, _ => .error (.loopFailed code)
  | none, some error => .error error
  | none, none => .ok ()

/-- The event of the loop's beginning. -/
def enteringEvent : LogEvent := ⟨.info, .tray, "Entering winit event loop", []⟩

/-- Runs the loop: the application is resumed, then come the wakes. -/
def run (world : World) (indicator : Indicator σ) (wakes : List Wake) (launcher : σ) :
    LoopRun σ :=
  if toolkit.hasEventLoop then
    let start := App.start launcher
    let calls := .resumed world toolkit.answers :: wakes.flatMap (toolkit.callsOf world)
    let seen := untilExit (App.visits indicator calls start)
    ⟨seen, toolkit.result ((seen.getLast?.map (·.app)).getD start), [enteringEvent]⟩
  else ⟨[], .error .noEventLoop, []⟩

end Toolkit

end TrayIndicator.Tray
