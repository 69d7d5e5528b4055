import TrayIndicator.Indicator
import TrayIndicator.Icon.Load
import TrayIndicator.Version

/-!
# The status item

On a desktop with a session bus the indicator is a status item: the shell
reports clicks and chosen menu entries as callbacks, one at a time. The quit
entry sends a token to the main loop, which ends at the first token; while it
waits it has children collected now and then. Title, tooltip, image and menu
are those of the start for good.
-/

namespace TrayIndicator.Tray

/-- The tooltip of a status item. -/
structure ToolTip where
  /-- The line that is shown. -/
  title : String
  /-- The text below it. -/
  description : String
  /-- The name of an icon of the theme. -/
  iconName : String
  /-- Images of its own. -/
  icons : List Icon.Pixmap
  deriving DecidableEq, Repr

/-- A published status item. -/
structure StatusItem (σ : Type) where
  /-- The indicator behind it. -/
  indicator : Indicator σ
  /-- The image, loaded once. -/
  pixmap : Icon.Pixmap

/-- The state of a status item. -/
structure ItemState (σ : Type) where
  /-- The state of the launcher. -/
  launcher : σ
  /-- The quit tokens sent so far to a main loop that was there. -/
  tokens : Nat
  /-- Is the main loop still there to take tokens? -/
  hasReceiver : Bool

/-- What the shell reports. -/
inductive Callback where
  /-- A primary click at a point. -/
  | activate (x y : Int)
  /-- A middle click at a point. -/
  | secondaryActivate (x y : Int)
  /-- A menu entry was chosen. -/
  | choose (action : MenuAction)
  deriving DecidableEq, Repr

namespace StatusItem

variable {σ : Type}

/-- The item of an indicator, with the events of loading its image. -/
def create (world : World) (indicator : Indicator σ) : StatusItem σ × List LogEvent :=
  let loaded := Icon.readOrPlaceholder world indicator.settings.iconPath
  (⟨indicator, loaded.1.pixmap⟩, loaded.2)

/-- The state at the start. -/
def start (launcher : σ) : ItemState σ := ⟨launcher, 0, true⟩

variable (item : StatusItem σ)

/-- The id of the item. -/
def id (_ : StatusItem σ) : String := programName

/-- The title of the item. -/
def title : String := item.indicator.settings.tooltip

/-- The tooltip of the item. -/
def toolTip : ToolTip := ⟨item.indicator.settings.tooltip, "", "", []⟩

/-- The images of the item. -/
def pixmaps : List Icon.Pixmap := [item.pixmap]

/-- The entries of the item's menu. -/
def menu (_ : StatusItem σ) : List MenuAction := MenuAction.all

/-- Takes over an answer of the indicator: an exit becomes a token, which is
lost if the main loop has gone. -/
def settle (state : ItemState σ) (step : Step σ Flow) : Step (ItemState σ) Unit :=
  let sent := if step.answer = .exit ∧ state.hasReceiver then 1 else 0
  ⟨(), { state with launcher := step.state, tokens := state.tokens + sent }, step.events⟩

/-- Answers a callback. -/
def handle (callback : Callback) (state : ItemState σ) : Step (ItemState σ) Unit :=
  match callback with
  | .activate _ _ => settle state (item.indicator.onActivation .trigger state.launcher)
  | .secondaryActivate _ _ => settle state (item.indicator.onActivation .middleClick state.launcher)
  | .choose action => settle state (item.indicator.onMenu action state.launcher)

/-- Has children collected. -/
def tick (state : ItemState σ) : Step (ItemState σ) Unit :=
  let step := item.indicator.tick state.launcher
  ⟨(), { state with launcher := step.state }, step.events⟩

/-- The event of a published item. -/
def registeredEvent : LogEvent := ⟨.info, .statusItem, "StatusNotifierItem registered", []⟩

/-- The event of the main loop's end. -/
def leavingEvent : LogEvent := ⟨.debug, .statusItem, "Quit requested, leaving tray loop", []⟩

/-- The event of the tray's beginning. -/
def startingEvent : LogEvent := ⟨.info, .tray, "Starting Syncrop tray indicator", []⟩

end StatusItem

end TrayIndicator.Tray
