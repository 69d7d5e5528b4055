/-!
# Log events

The program tells what it does as events with a level, the part of the
program that speaks, a message and named fields.
-/

namespace TrayIndicator

/-- How much an event matters, from the least to the most. -/
inductive Level where
  | trace | debug | info | warn | error
  deriving DecidableEq, Repr

namespace Level

/-- The name of a level as a log shows it. -/
def name : Level → String
  | .trace => "TRACE"
  | .debug => "DEBUG"
  | .info => "INFO"
  | .warn => "WARN"
  | .error => "ERROR"

/-- The rank of a level; a greater one matters more. -/
def rank : Level → Nat
  | .trace => 0
  | .debug => 1
  | .info => 2
  | .warn => 3
  | .error => 4

end Level

/-- The parts of the program that speak. -/
inductive LogSource where
  /-- The program as a whole. -/
  | program
  /-- The settings. -/
  | settings
  /-- The answers to tray events. -/
  | dispatch
  /-- The launching of programs. -/
  | launcher
  /-- The tray as such. -/
  | tray
  /-- The loading of the icon. -/
  | icon
  /-- The status item on the session bus. -/
  | statusItem
  deriving DecidableEq, Repr

/-- The name under which a part speaks; a log filter selects by it. -/
def LogSource.target : LogSource → String
  | .program => "syncrop_indicator"
  | .settings => "syncrop_indicator::config"
  | .dispatch => "syncrop_indicator::dispatch"
  | .launcher => "syncrop_indicator::launcher"
  | .tray => "syncrop_indicator::tray"
  | .icon => "syncrop_indicator::tray::icon"
  | .statusItem => "syncrop_indicator::tray::linux"

/-- One event of the log. -/
structure LogEvent where
  /-- How much it matters. -/
  level : Level
  /-- Who speaks. -/
  source : LogSource
  /-- What is said. -/
  message : String
  /-- The named values that go with it, in order. -/
  fields : List (String × String)
  deriving DecidableEq, Repr

/-- Does an event have a field with the name? What is said counts as a field. -/
def LogEvent.hasField (event : LogEvent) (name : String) : Bool :=
  name == "message" || event.fields.any (·.1 == name)

end TrayIndicator
