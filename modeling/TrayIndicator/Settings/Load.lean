import TrayIndicator.Settings.Format
import TrayIndicator.World
import TrayIndicator.Log

/-!
# Loading settings

Settings are loaded from a file; the defaults stand in when it is absent, and
an event says so. Values given for one run are laid over what was loaded.
-/

namespace TrayIndicator.Settings

/-- The settings that reading a file gives. -/
def ofReading (path : Path) (reading : Except IoError String) : Except SettingsError Settings :=
  match reading with
  | .error cause => .error (.unreadable path cause)
  | .ok text => do
    let settings ← parse text
    .ok { settings with path }

/-- The settings of a file. -/
def loadFrom (world : World) (path : Path) : Except SettingsError Settings :=
  ofReading path (world.readText path)

/-- The event of an absent file. -/
def absentEvent (path : Path) : LogEvent :=
  ⟨.debug, .settings, "No config file, using defaults", [("path", path.shown)]⟩

/-- The settings of a file that is looked up and then read: the defaults if the lookup
fails, whatever the reason, else what reading it gives. -/
def ofLookAndReading (path : Path) (look : Except IoError Unit) (reading : Except IoError String) :
    Except SettingsError Settings × List LogEvent :=
  match look with
  | .error _ => (.ok { default with path }, [absentEvent path])
  | .ok () => (ofReading path reading, [])

/-- The settings of a file, or the defaults where the path leads nowhere. -/
def loadOrDefault (world : World) (path : Path) :
    Except SettingsError Settings × List LogEvent :=
  ofLookAndReading path (world.look path) (world.readText path)

/-- A file is loaded if its path leads anywhere. -/
theorem loadOrDefault_eq_ite (world : World) (path : Path) :
    loadOrDefault world path =
      if world.exists? path then (loadFrom world path, [])
      else (.ok { default with path }, [absentEvent path]) := by
  rw [loadOrDefault, ← world.isOk_look]
  cases world.look path <;> rfl

/-- The settings of a run: those loaded, with the values given laid over them. -/
def effective (world : World) (path : Path) (overrides : Overrides) :
    Except SettingsError Settings × List LogEvent :=
  match loadOrDefault world path with
  | (.ok settings, events) => (settings.withOverrides overrides, events)
  | (.error error, events) => (.error error, events)

end TrayIndicator.Settings
