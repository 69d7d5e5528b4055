import TrayIndicator.Calendar
import TrayIndicator.CrashReport
import TrayIndicator.Program
import Std.Time.DateTime.Timestamp

/-!
# The command

The command looks at the files that a run of the program is about, makes the
run, and writes what it left behind: texts, and the log of the tray, without the
log files that the run removed. Nothing is decided here. No shell is asked for
calls, so a tray ends where its session begins.
-/

namespace TrayIndicator.Main

/-- The variables that a run asks for. -/
def variableNames : List String := [
  "HOME", "PATH", "XDG_DATA_HOME", "XDG_CONFIG_HOME", "RUST_LOG", "SYNCROP_INDICATOR_LOG_LEVEL",
  "SYNCROP_INDICATOR_CONFIG"]

/-- The world with the file that a path leads to. The system is not asked for
permission bits; every file counts as a program. -/
def addFile (world : World) (path : Path) : IO World := do
  let text := path.shown
  try
    let content ← IO.FS.readBinFile text
    return { world with
      files := world.files.install world.here path (.file content.data.toList 0o755) }
  catch
    | .inappropriateType .. =>
      let files := (world.files.makeDirectories world.here path).toOption.getD world.files
      return { world with files }
    | _ => return world

/-- The files in the folder of logs, those that were changed long ago first. -/
def logFiles (world : World) : IO (List Path) := do
  try
    let folder ← IO.FS.realPath world.logDirectory.shown
    let entries ← (← folder.readDir).mapM fun entry => do
      return ((← entry.path.metadata).modified, entry.fileName)
    let sorted := entries.toList.mergeSort fun first second => !(second.1 < first.1 : Bool)
    return sorted.map fun entry => world.logDirectory.joinText entry.2
  catch _ => return []

/-- The world as far as a run with these arguments looks at it. The files of the
log are looked at first, so that they keep the order of their age. -/
def readWorld (arguments : List (List UInt8)) (day : String) : IO World := do
  let environment ← variableNames.filterMapM fun name => do
    return (← IO.getEnv name).map fun value => (name, Text.bytes value)
  let cwd := (← IO.currentDir).toString
  let files := (Files.Tree.makeDirectories ⟨[]⟩ [] (Path.ofText cwd)).toOption.getD ⟨[]⟩
  let world : World := ⟨environment, Path.ofText cwd, files, none, fun _ => none⟩
  let world ← (← logFiles world).foldlM addFile world
  let world ← (Program.lookedAt world arguments day).foldlM addFile world
  (Program.lookedAt world arguments day).foldlM addFile world

/-- Writes a file of the log directory, if it is not as it was. -/
def writeLog (earlier later : World) (path : Path) : IO Unit := do
  match later.read path with
  | .ok content =>
    unless (earlier.read path).toOption == some content do
      IO.FS.createDirAll later.logDirectory.shown
      IO.FS.writeBinFile path.shown ⟨content.toArray⟩
  | .error _ => return

/-- Removes the files of the log that the run removed. -/
def removeLogs (earlier later : World) : IO Unit := do
  for path in ← logFiles earlier do
    if earlier.exists? path && !later.exists? path then IO.FS.removeFile path.shown

/-- Makes the run at a moment and writes what it left behind. -/
def carryOut (arguments : List (List UInt8)) (seconds : Nat) : IO UInt8 := do
  let day := Calendar.dateText "-" seconds
  let moment : Program.Moment := ⟨day ++ "T" ++ Calendar.timeText ":" seconds ++ "Z", day⟩
  let world ← readWorld arguments day
  let outcome := Program.run world arguments moment []
  IO.print outcome.output
  IO.eprint outcome.errors
  removeLogs world outcome.world
  writeLog world outcome.world (LogFolder.file outcome.world day)
  return (outcome.exitCode.getD 0).toUInt8

/-- Tells of a crash and leaves a report of it. -/
def reportCrash (message : String) (seconds : Nat) : IO UInt8 := do
  let day := Calendar.dateText "-" seconds
  let world ← readWorld [] day
  let crash : CrashReport.Crash :=
    ⟨message, "unknown location", "", .ofSeconds seconds seconds⟩
  let written := CrashReport.write world crash
  IO.eprint (CrashReport.notice (written.map (·.1)))
  match written with
  | some (path, after) => writeLog world after path
  | none => pure ()
  return 101

end TrayIndicator.Main

/-- The command with its arguments. -/
def main (arguments : List String) : IO UInt32 := do
  let now ← Std.Time.Timestamp.now
  let seconds := now.toSecondsSinceUnixEpoch.val.toNat
  let words := arguments.map TrayIndicator.Text.bytes
  let code ←
    try TrayIndicator.Main.carryOut words seconds
    catch error => TrayIndicator.Main.reportCrash (toString error) seconds
  return code.toUInt32
