import TrayIndicator.Icon.Load
import TrayIndicator.Settings.Home
import TrayIndicator.Failure

/-!
# The health check

The health check tells whether the actions of the tray can work: it looks at
the settings file, the icon, the two programs and the log file. A program that
cannot be found is an error; everything else is at most a warning.
-/

namespace TrayIndicator.Doctor

/-- How a check went. -/
inductive CheckStatus where
  | ok | warning | error
  deriving DecidableEq, Repr

/-- The mark of a status in its colour. -/
def CheckStatus.mark : CheckStatus → String
  | .ok => "\x1b[32m[OK]\x1b[0m"
  | .warning => "\x1b[33m[!!]\x1b[0m"
  | .error => "\x1b[31m[XX]\x1b[0m"

/-- The result of a check. -/
structure Check where
  /-- How it went. -/
  status : CheckStatus
  /-- What was checked. -/
  label : String
  /-- What was found. -/
  detail : String
  deriving DecidableEq, Repr

/-- The line of a check. -/
def Check.line (check : Check) : String :=
  check.status.mark ++ " " ++ check.label ++ ": " ++ check.detail ++ "\n"

/-- An entry of the search path whose first step is a tilde lies in the home
directory. -/
def expandEntry (home : Option Path) (entry : Path) : Path :=
  if entry.isAbsolute then entry
  else
    match entry.steps with
    | first :: rest =>
      if first = [0x7E] then rest.foldl (fun path step => path.join ⟨step⟩) (home.getD Path.empty)
      else entry
    | [] => entry

/-- The paths at which a program is looked for, the first one first. A name of
several steps is taken from the working directory; any other is looked up along
the search path. -/
def candidates (world : World) (program : String) : List Path :=
  let name := Path.ofText program
  if 1 < (if name.isAbsolute then 1 else 0) + name.steps.length then [world.cwd.join name]
  else
    match world.value? "PATH" with
    | none => []
    | some entries =>
      (Path.searchEntries entries).map fun entry => (expandEntry world.home? entry).join name

/-- Where a program is found. -/
def findProgram (world : World) (program : String) : Option Path :=
  (candidates world program).find? (world.files.isProgram world.here)

/-- A program that is found can be run. -/
theorem isProgram_of_findProgram {world : World} {program : String} {path : Path}
    (h : findProgram world program = some path) :
    world.files.isProgram world.here path = true :=
  List.find?_some h

/-- Checks the settings file; it may be absent. -/
def checkSettingsFile (world : World) (path : Path) : Check :=
  ⟨.ok, "Config file",
    if world.exists? path then path.shown else path.shown ++ " (absent, using defaults)"⟩

/-- Checks the icon. -/
def checkIcon (world : World) (path : Path) : Check :=
  match Icon.read world path with
  | .ok _ => ⟨.ok, "Tray icon", path.shown⟩
  | .error error => ⟨.warning, "Tray icon", error.message ++ " (placeholder will be used)"⟩

/-- Checks a program. -/
def checkProgram (world : World) (label program : String) : Check :=
  match findProgram world program with
  | some path => ⟨.ok, label, path.shown⟩
  | none => ⟨.error, label, "'" ++ program ++ "' not found on PATH"⟩

/-- Checks the log file as the opener will be given it. -/
def checkLogFile (world : World) (settings : Settings) : Check :=
  let target := settings.logTarget world.home?
  if !settings.expandHome && settings.logFile.toList.head? == some '~' then
    ⟨.warning, "Log file",
      "'" ++ target.shown ++ "' is passed without home expansion (see expand_home)"⟩
  else if world.exists? target then ⟨.ok, "Log file", target.shown⟩
  else ⟨.warning, "Log file", target.shown ++ " does not exist yet"⟩

/-- The checks in the order they are shown. -/
def checks (world : World) (settings : Settings) : List Check := [
  checkSettingsFile world settings.path,
  checkIcon world settings.iconPath,
  checkProgram world "Log opener" settings.opener,
  checkProgram world "Companion GUI" settings.companion,
  checkLogFile world settings]

/-- How many checks found an error. -/
def failures (checks : List Check) : Nat := (checks.filter (·.status = .error)).length

/-- The heading of the report. -/
def heading : String :=
  "\n\x1b[1mSyncrop Indicator - Health Check\x1b[0m\n" ++
    String.ofList (List.replicate 40 '=') ++ "\n\n"

/-- The report and the failure that ends it, if a check found an error. -/
def run (world : World) (settings : Settings) : String × Option Failure :=
  let results := checks world settings
  let report := heading ++ String.join (results.map Check.line) ++ "\n"
  if failures results = 0 then (report ++ "All required checks passed.\n", none)
  else (report, some ⟨toString (failures results) ++ " check(s) failed", []⟩)

end TrayIndicator.Doctor
