import TrayIndicator.CommandLine.Parse
import TrayIndicator.Doctor
import TrayIndicator.Log.Filter
import TrayIndicator.Log.Folder
import TrayIndicator.Log.Line
import TrayIndicator.Machine.Processes
import TrayIndicator.Settings.Show
import TrayIndicator.Tray.Bus

/-!
# A run of the program

A run reads the command line, loads the settings and carries out the command.
The tray logs to a file in the indicator's own directory, as it has no
terminal; the other commands log to the error output. A failure is told on the
error output with its causes.

The standard streams are assumed to work: a print that fails ends the run in a crash,
and the report of that is written to the log directory.
-/

namespace TrayIndicator.Program

open CommandLine Machine Tray

/-- The moment of a run as its log shows it. -/
structure Moment where
  /-- The time before each event. -/
  time : String
  /-- The day in the name of the log file. -/
  day : String

/-- What a run leaves behind. -/
structure Outcome where
  /-- The exit code, unless the run has not ended. -/
  exitCode : Option Nat
  /-- What was written to the standard output. -/
  output : String
  /-- What was written to the error output. -/
  errors : String
  /-- What the calls of the shell were answered. -/
  replies : List BusReply
  /-- What the launcher was asked, in order. -/
  calls : List Call
  /-- The world afterwards. -/
  world : World

/-- The event of the beginning. -/
def startEvent : LogEvent :=
  ⟨.info, .program, "Syncrop indicator starting", [("version", version)]⟩

/-- The event of the tray's end. -/
def endEvent : LogEvent := ⟨.info, .program, "Syncrop indicator exiting", []⟩

/-- The message of a failed run. -/
def complaint (failure : Failure) : String :=
  "Syncrop indicator error: " ++ failure.report ++ "\n"

/-- The message of a run, if it failed. -/
def complaints (failure : Option Failure) : String := (failure.map complaint).getD ""

/-- The exit code of a run that has ended. -/
def exitCode (failure : Option Failure) : Nat := if failure.isSome then 1 else 0

/-- The failure of loading settings. -/
def loadFailure (path : Path) (error : SettingsError) : Failure :=
  error.failure ("Failed to load config from " ++ path.shown)

/-- A run that a command line does not ask for. -/
def stopped (world : World) (stop : Stop) : Outcome :=
  let texts : String × String :=
    match stop with
    | .help text => (text, "")
    | .version text => (text, "")
    | .usage error => ("", "error: " ++ error.name ++ "\n")
  ⟨some stop.exitCode, texts.1, texts.2, [], [], world⟩

/-- What a command other than the tray writes to the standard output, and its
failure. -/
def carryOut (world : World) (path : Path) (settings : Settings) :
    CommandLine.Command → String × Option Failure
  | .doctor => Doctor.run world settings
  | .configShow => settings.display world
  | .configPath => (path.shown ++ "\n", none)
  | .tray => ("", none)

/-- A run of a command other than the tray. -/
def runCommand (world : World) (choice : Choice) (command : CommandLine.Command)
    (filter : LogFilter) (moment : Moment) : Outcome :=
  let path := choice.configPath world
  let loaded := choice.load world
  let log := ((startEvent :: loaded.2).filter filter.passes).map (·.consoleLine moment.time)
  let result : String × Option Failure :=
    match loaded.1 with
    | .ok settings => carryOut world path settings command
    | .error error => ("", some (loadFailure path error))
  ⟨some (exitCode result.2), result.1, String.join log ++ complaints result.2, [], [], world⟩

/-- What a session of the tray leaves behind. -/
structure Session where
  /-- Has it ended? -/
  ended : Bool
  /-- What the calls were answered. -/
  replies : List BusReply
  /-- The events told. -/
  events : List LogEvent
  /-- What the launcher was asked, in order. -/
  calls : List Call
  /-- The world afterwards, when the started programs have run. -/
  world : World

/-- A session of the tray with the calls of the shell. -/
def runTray (world : World) (settings : Settings) (calls : List BusCall) : Session :=
  let indicator : Indicator (List Call × Machine) :=
    ⟨settings, world.home?, Launcher.processes.noting⟩
  let created := StatusItem.create world indicator
  let start := StatusItem.start ([], Machine.start world false)
  let steps := created.1.session calls start
  let last := (steps.getLast?.map (·.state)).getD start
  ⟨StatusItem.ended steps, steps.map (·.answer),
    StatusItem.startingEvent :: created.2 ++ StatusItem.registeredEvent ::
      steps.flatMap (·.events),
    last.launcher.1, last.launcher.2.exhaust.world⟩

/-- A run of the tray once its log file is open. -/
def runLoggedTray (world : World) (choice : Choice) (filter : LogFilter) (moment : Moment)
    (calls : List BusCall) : Outcome :=
  let path := choice.configPath world
  let loaded := choice.load world
  let session : Session × Option Failure :=
    match loaded.1 with
    | .ok settings => (runTray world settings calls, none)
    | .error error => (⟨true, [], [], [], world⟩, some (loadFailure path error))
  let events := startEvent :: loaded.2 ++ session.1.events ++
    (if session.1.ended && session.2.isNone then [endEvent] else [])
  let log := String.join ((events.filter filter.passes).map (·.fileLine moment.time))
  let after := session.1.world
  ⟨if session.1.ended then some (exitCode session.2) else none, "", complaints session.2,
    session.1.replies, session.1.calls, (LogFolder.add after moment.day log).toOption.getD after⟩

/-- What goes wrong when the log file cannot be opened. -/
def logFailure (cause : IoError) : Failure :=
  ⟨"failed to create initial log file: " ++ cause.text, [cause.text]⟩

/-- A run of the program with the arguments after its name, while the shell
makes calls. -/
def run (world : World) (arguments : List (List UInt8)) (moment : Moment)
    (calls : List BusCall) : Outcome :=
  match CommandLine.parse world arguments with
  | .error stop => stopped world stop
  | .ok choice =>
    let filter := LogFilter.choose (world.value? "RUST_LOG") choice.logLevel.least
    let command := choice.command.getD .tray
    if choice.runsTray then
      let refused (failure : Failure) : Outcome := ⟨some 1, "", complaint failure, [], [], world⟩
      match world.makeLogDirectory with
      | .error cause => refused ⟨"Failed to create log directory", [cause.text]⟩
      | .ok world =>
        match LogFolder.openFile world moment.day with
        | .error cause => refused (logFailure cause)
        | .ok world => runLoggedTray world choice filter moment calls
    else runCommand world choice command filter moment

/-- The files that a run of the program on a day looks at, as far as the world
tells: its own log, the settings file, and once its settings are there the icon,
the log file to open and the places of the programs. -/
def lookedAt (world : World) (arguments : List (List UInt8)) (day : String) : List Path :=
  match CommandLine.parse world arguments with
  | .error _ => []
  | .ok choice =>
    LogFolder.file world day :: choice.configPath world ::
      match (choice.load world).1 with
      | .error _ => []
      | .ok settings =>
        settings.iconPath :: settings.logTarget world.home? ::
          (Doctor.candidates world settings.opener ++
            Doctor.candidates world settings.companion)

end TrayIndicator.Program
