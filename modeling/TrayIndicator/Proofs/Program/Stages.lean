import TrayIndicator.Program
import TrayIndicator.Proofs.Tray.Session

/-!
# The stages of a run

A run that a command line asks for gets ready, loads its settings, and carries out
its command. The tray is ready when its log file is open; the other commands are
ready at once. Each stage that fails ends the run.
-/

namespace TrayIndicator.Program

open CommandLine Machine Tray

/-- The filter of a run's log. -/
def filterOf (world : World) (choice : Choice) : LogFilter :=
  .choose (world.value? "RUST_LOG") choice.logLevel.least

/-- The world in which a run loads its settings. -/
def ready (world : World) (choice : Choice) (day : String) : Except Failure World :=
  if choice.runsTray then
    match world.makeLogDirectory with
    | .error cause => .error ⟨"Failed to create log directory", [cause.text]⟩
    | .ok made =>
      match LogFolder.openFile made day with
      | .error cause => .error (logFailure cause)
      | .ok opened => .ok opened
  else .ok world

/-- The world with events in the log file of the day, as far as a filter lets them
pass. -/
def logged (world : World) (filter : LogFilter) (moment : Moment) (events : List LogEvent) :
    World :=
  let log := String.join ((events.filter filter.passes).map (·.fileLine moment.time))
  (LogFolder.add world moment.day log).toOption.getD world

section Stages

variable (world : World) (choice : Choice) (filter : LogFilter) (moment : Moment)
  (calls : List BusCall)

/-- A run gets ready, or tells why it cannot. -/
theorem run_eq {arguments : List (List UInt8)}
    (hparse : CommandLine.parse world arguments = .ok choice) :
    run world arguments moment calls =
      match ready world choice moment.day with
      | .error failure => ⟨some 1, "", complaint failure, [], [], world⟩
      | .ok start =>
        if choice.runsTray then runLoggedTray start choice (filterOf world choice) moment calls
        else
          runCommand start choice (choice.command.getD .tray) (filterOf world choice) moment := by
  simp only [run, hparse, ready]
  cases choice.runsTray with
  | false => rfl
  | true =>
    simp only [if_true]
    cases world.makeLogDirectory with
    | error cause => rfl
    | ok made =>
      dsimp only
      cases LogFolder.openFile made moment.day <;> rfl

/-- The home directory stays when the directory of logs is made. -/
theorem home?_of_makeLogDirectory {before after : World}
    (h : before.makeLogDirectory = .ok after) : after.home? = before.home? := by
  unfold World.makeLogDirectory at h
  split at h
  · cases h
    rfl
  · cases h

/-- The home directory stays when a log file is opened. -/
theorem home?_of_openFile {before after : World} {day : String}
    (h : LogFolder.openFile before day = .ok after) : after.home? = before.home? := by
  have hroom : (LogFolder.makeRoom before).home? = before.home? := by
    unfold LogFolder.makeRoom
    split <;> rfl
  rw [LogFolder.openFile, LogFolder.add, Except.map.eq_def] at h
  split at h
  · cases h
  · cases h
    exact hroom

/-- Getting ready leaves the home directory as it is. -/
theorem home?_of_ready {day : String} {start : World} (h : ready world choice day = .ok start) :
    start.home? = world.home? := by
  unfold ready at h
  split at h
  · split at h
    · cases h
    · next made hmade =>
      split at h
      · cases h
      · next opened hopened =>
        cases h
        rw [home?_of_openFile hopened, home?_of_makeLogDirectory hmade]
  · cases h
    rfl

/-- Without settings a command tells why and does nothing. -/
theorem runCommand_of_error {error : SettingsError} (h : (choice.load world).1 = .error error)
    (command : CommandLine.Command) :
    let outcome := runCommand world choice command filter moment
    outcome.exitCode = some 1 ∧ outcome.output = "" := by
  simp [runCommand, h, exitCode]

/-- Without settings the tray tells why; its log holds no event of an item. -/
theorem runLoggedTray_of_error {error : SettingsError}
    (h : (choice.load world).1 = .error error) :
    runLoggedTray world choice filter moment calls =
      ⟨some 1, "", complaint (loadFailure (choice.configPath world) error), [], [],
        logged world filter moment (startEvent :: (choice.load world).2)⟩ := by
  simp [runLoggedTray, h, exitCode, complaints, logged]

/-- With settings the tray is a session, and ends well if that ends. -/
theorem runLoggedTray_of_ok {settings : Settings} (h : (choice.load world).1 = .ok settings) :
    let outcome := runLoggedTray world choice filter moment calls
    let session := runTray world settings calls
    outcome.exitCode = (if session.ended then some 0 else none) ∧
      outcome.calls = session.calls := by
  simp [runLoggedTray, h, exitCode]

/-- A session has ended exactly if a call chooses the quit entry. -/
theorem runTray_ended (settings : Settings) :
    (runTray world settings calls).ended = calls.any BusCall.quits :=
  StatusItem.ended_session _ calls rfl rfl

/-- A session asks for what its calls ask, up to the one that chooses the quit
entry. -/
theorem runTray_calls (settings : Settings) :
    (runTray world settings calls).calls = (upToFirst BusCall.quits calls).flatMap
      (BusCall.asked ⟨settings, world.home?, Launcher.processes⟩) := by
  let indicator : Indicator Machine := ⟨settings, world.home?, Launcher.processes⟩
  exact StatusItem.session_asked indicator (StatusItem.create world indicator.noting).1.pixmap
    calls rfl

end Stages

end TrayIndicator.Program
