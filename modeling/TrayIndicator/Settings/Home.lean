import TrayIndicator.Settings.Basic
import TrayIndicator.World

/-!
# Places in the home directory

A leading tilde of the log file stands for the home directory when the
settings say so. The indicator keeps its settings file and its own data under
the home directory, or where the variables of the desktop say.
-/

namespace TrayIndicator

/-- The path that a text spells, a leading tilde step replaced by the home
directory if there is one. A tilde with a user's name is left alone. -/
def expandHome (home : Option Path) (text : String) : Path :=
  match home with
  | none => Path.ofText text
  | some home =>
    match text.toList with
    | ['~'] => home
    | '~' :: '/' :: rest => home.joinText (String.ofList rest)
    | _ => Path.ofText text

/-- Without a home directory every path stays as it is written. -/
theorem expandHome_none (text : String) : expandHome none text = Path.ofText text := rfl

/-- What the opener is given: the log file, expanded if the settings say so. -/
def Settings.logTarget (settings : Settings) (home : Option Path) : Path :=
  if settings.expandHome then TrayIndicator.expandHome home settings.logFile
  else Path.ofText settings.logFile

namespace World

/-- A directory that a variable names, if it is absolute; else one under the
home directory. -/
def desktopDirectory (world : World) (home : Path) (name fallback : String) : Path :=
  match world.value? name with
  | some value => if Path.isAbsolute ⟨value⟩ then ⟨value⟩ else home.joinText fallback
  | none => home.joinText fallback

/-- Where the indicator keeps its data. Without a home directory the variables
do not count. -/
def dataDirectory (world : World) : Path :=
  match world.home? with
  | some home => (world.desktopDirectory home "XDG_DATA_HOME" ".local/share").joinText "syncrop"
  | none => (((Path.ofText ".").joinText ".local").joinText "share").joinText "syncrop"

/-- The settings file that is read when no other is named. -/
def settingsFile (world : World) : Path :=
  let directory :=
    match world.home? with
    | some home => (world.desktopDirectory home "XDG_CONFIG_HOME" ".config").joinText "syncrop"
    | none => world.dataDirectory
  directory.joinText "indicator.toml"

/-- Where the indicator keeps its own logs. -/
def logDirectory (world : World) : Path := world.dataDirectory.joinText "logs"

/-- Makes the directory of the indicator's own logs. -/
def makeLogDirectory (world : World) : Except IoError World :=
  match world.files.makeDirectories world.here world.logDirectory with
  | .ok files => .ok { world with files }
  | .error error => .error error

end World

end TrayIndicator
