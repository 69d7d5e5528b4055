import TrayIndicator.Path
import TrayIndicator.Text.Blank
import TrayIndicator.IoError
import TrayIndicator.Toml.Complaint

/-!
# Settings

Everything the indicator can be told: its icon, the log file and the program
that opens it, the companion program, and the tooltip. Every setting has a
default, so the indicator runs without any file. Three of them may not be
blank.
-/

namespace TrayIndicator

/-- The settings of the indicator. -/
structure Settings where
  /-- The file they belong to; it need not exist. -/
  path : Path
  /-- The image shown in the notification area. -/
  iconPath : Path
  /-- The log that the menu opens. -/
  logFile : String
  /-- The program that opens the log. -/
  opener : String
  /-- The program that a primary click starts. -/
  companion : String
  /-- Is a leading tilde of the log file replaced by the home directory? -/
  expandHome : Bool
  /-- The text shown beside the pointer. -/
  tooltip : String
  deriving DecidableEq, Repr

/-- Values given for one run, laid over the settings. -/
structure Overrides where
  /-- The icon, if given. -/
  iconPath : Option Path
  /-- The log file, if given. -/
  logFile : Option String
  /-- The opener, if given. -/
  opener : Option String
  /-- The companion, if given. -/
  companion : Option String
  /-- Is the expansion of the tilde asked for? -/
  expandHome : Bool
  deriving DecidableEq, Repr

/-- The settings that may not be blank, in the order they are checked. -/
inductive RequiredSetting where
  | logFile | opener | companion
  deriving DecidableEq, Repr

/-- The name of a required setting in a settings file. -/
def RequiredSetting.name : RequiredSetting → String
  | .logFile => "log_file"
  | .opener => "opener"
  | .companion => "companion"

/-- Why there are no settings. -/
inductive SettingsError where
  /-- The file cannot be read. -/
  | unreadable (path : Path) (cause : IoError)
  /-- The file is not of the format. -/
  | malformed
  /-- A setting has the wrong type. -/
  | wrongType (complaint : Toml.Complaint)
  /-- A required setting is blank. -/
  | missing (setting : RequiredSetting)
  /-- The settings cannot be written because the icon's path is no text. -/
  | unwritable

namespace SettingsError

/-- What is wrong with settings that cannot be written. -/
def unwritableCause : String := "path contains invalid UTF-8 characters"

/-- The text of an error. A malformed file is described no further. -/
def message : SettingsError → String
  | .unreadable path cause =>
    "Failed to read config file " ++ path.shown ++ ": " ++ cause.text
  | .malformed => "Parse error:"
  | .wrongType complaint => "Parse error: " ++ complaint.text
  | .missing setting => "Missing required field: " ++ setting.name
  | .unwritable => "Serialize error: " ++ unwritableCause

/-- The texts of what an error was caused by. -/
def causes : SettingsError → List String
  | .unreadable _ cause => [cause.text]
  | .malformed => [""]
  | .wrongType complaint => [complaint.text]
  | .missing _ => []
  | .unwritable => [unwritableCause]

end SettingsError

namespace Settings

/-- The settings of a fresh installation. -/
def default : Settings where
  path := Path.empty
  iconPath := Path.ofText "/usr/share/pixmaps/syncrop.png"
  logFile := "~/.syncrop/syncrop.log"
  opener := "xdg-open"
  companion := "syncrop-gui"
  expandHome := false
  tooltip := "Syncrop"

/-- The value of a required setting. -/
def required (settings : Settings) : RequiredSetting → String
  | .logFile => settings.logFile
  | .opener => settings.opener
  | .companion => settings.companion

/-- The first required setting that is blank. -/
def missing? (settings : Settings) : Option RequiredSetting :=
  [.logFile, .opener, .companion].find? fun setting => Text.isBlank (settings.required setting)

/-- The settings, unless a required one is blank. -/
def checked (settings : Settings) : Except SettingsError Settings :=
  match settings.missing? with
  | some setting => .error (.missing setting)
  | none => .ok settings

/-- Checked settings are the settings given. -/
theorem eq_of_checked {settings result : Settings} (h : settings.checked = .ok result) :
    result = settings := by
  unfold checked at h
  split at h
  · exact absurd h (by simp)
  · exact (Except.ok.inj h).symm

/-- The settings with values laid over them. The expansion of the tilde can
only be switched on. -/
def layered (settings : Settings) (overrides : Overrides) : Settings :=
  { settings with
    iconPath := overrides.iconPath.getD settings.iconPath
    logFile := overrides.logFile.getD settings.logFile
    opener := overrides.opener.getD settings.opener
    companion := overrides.companion.getD settings.companion
    expandHome := settings.expandHome || overrides.expandHome }

/-- The settings with values laid over them, unless a required one is blank
then. -/
def withOverrides (settings : Settings) (overrides : Overrides) : Except SettingsError Settings :=
  (settings.layered overrides).checked

end Settings

/-- Nothing is laid over the settings. -/
def Overrides.none : Overrides := ⟨Option.none, Option.none, Option.none, Option.none, false⟩

/-- Laying nothing over settings changes nothing. -/
theorem Settings.layered_none (settings : Settings) :
    settings.layered Overrides.none = settings := by
  simp [Settings.layered, Overrides.none]

end TrayIndicator
