import TrayIndicator.Settings.Format
import TrayIndicator.World
import TrayIndicator.Failure

/-!
# Showing settings

The settings of a run are shown as the text of a settings file, below a line
that says which file they come from. Settings that cannot be written leave
that line alone.
-/

namespace TrayIndicator

namespace SettingsError

/-- The failure of an operation on settings. -/
def failure (error : SettingsError) (summary : String) : Failure :=
  ⟨summary, error.message :: error.causes⟩

end SettingsError

namespace Settings

/-- The line above shown settings. -/
def origin (world : World) (settings : Settings) : String :=
  if world.exists? settings.path then "# Loaded from " ++ settings.path.shown ++ "\n"
  else "# No config file at " ++ settings.path.shown ++ ", showing defaults\n"

/-- The settings as they are shown, and the failure if they cannot be written. -/
def display (world : World) (settings : Settings) : String × Option Failure :=
  match settings.render with
  | .ok text => (settings.origin world ++ text, none)
  | .error error =>
    (settings.origin world, some (error.failure "Failed to render configuration"))

end Settings

end TrayIndicator
