import TrayIndicator.Settings.Basic
import TrayIndicator.Toml.Spelling

/-!
# The settings file

A settings file is TOML. Only the entries of its root table with the names of
settings count; they replace the defaults, and the first one of a wrong type
is an error. Writing gives one line of key and value for every setting, in a
fixed order, and the strings in the form that suits each.
-/

namespace TrayIndicator.Settings

open Toml

/-- The text that an item holds. -/
def expectText (document : Document) (wanted : String) (item : Item) :
    Except SettingsError String :=
  match item with
  | .value (.text value) _ => .ok value
  | item => .error (.wrongType (document.complaint item wanted))

/-- The boolean that an item holds. -/
def expectFlag (document : Document) (item : Item) : Except SettingsError Bool :=
  match item with
  | .value (.boolean value) _ => .ok value
  | item => .error (.wrongType (document.complaint item "a boolean"))

/-- Replaces the setting that an entry names; other entries change nothing. -/
def readEntry (document : Document) (settings : Settings) (entry : String × Item) :
    Except SettingsError Settings :=
  match entry.1 with
  | "icon_path" => do
    let value ← expectText document "path string" entry.2
    .ok { settings with iconPath := Path.ofText value }
  | "log_file" => do
    let value ← expectText document "a string" entry.2
    .ok { settings with logFile := value }
  | "opener" => do
    let value ← expectText document "a string" entry.2
    .ok { settings with opener := value }
  | "companion" => do
    let value ← expectText document "a string" entry.2
    .ok { settings with companion := value }
  | "expand_home" => do
    let value ← expectFlag document entry.2
    .ok { settings with expandHome := value }
  | "tooltip" => do
    let value ← expectText document "a string" entry.2
    .ok { settings with tooltip := value }
  | _ => .ok settings

/-- The settings that a document spells, unchecked. -/
def ofDocument (document : Document) : Except SettingsError Settings :=
  document.entries.foldlM (readEntry document) default

/-- The settings that a text spells; they belong to no file. -/
def parse (text : String) : Except SettingsError Settings :=
  match Document.read text.toList with
  | none => .error .malformed
  | some document => do
    let settings ← ofDocument document
    settings.checked

/-- A line of key and string. -/
def textLine (name value : String) : List Char :=
  name.toList ++ [' ', '=', ' '] ++ spell value.toList ++ ['\n']

/-- A line of key and boolean. -/
def flagLine (name : String) (value : Bool) : List Char :=
  name.toList ++ [' ', '=', ' '] ++ (if value then "true" else "false").toList ++ ['\n']

/-- The settings as the text of a file, given the text of the icon's path. -/
def lines (settings : Settings) (iconPath : String) : List Char :=
  textLine "icon_path" iconPath ++ textLine "log_file" settings.logFile ++
    textLine "opener" settings.opener ++ textLine "companion" settings.companion ++
    flagLine "expand_home" settings.expandHome ++ textLine "tooltip" settings.tooltip

/-- The settings as the text of a file. A path that is no text cannot be
written. -/
def render (settings : Settings) : Except SettingsError String :=
  match settings.iconPath.text? with
  | some iconPath => .ok (String.ofList (settings.lines iconPath))
  | none => .error .unwritable

end TrayIndicator.Settings
