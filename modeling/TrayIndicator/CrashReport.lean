import TrayIndicator.Calendar
import TrayIndicator.Settings.Home
import TrayIndicator.Version

/-!
# Crash reports

When the program crashes it writes a report beside its own logs and says on
its error output where. The report is lost silently if it cannot be written.
-/

namespace TrayIndicator.CrashReport

/-- A moment as reports show it, and as their file names do. -/
structure Stamp where
  /-- Date and time for reading. -/
  shown : String
  /-- Date and time for a file name. -/
  compact : String

/-- The stamp of a crash whose report shows one second and whose file is named after
another: the clock is read for each. -/
def Stamp.ofSeconds (told named : Nat) : Stamp where
  shown := Calendar.dateText "-" told ++ " " ++ Calendar.timeText ":" told
  compact := Calendar.dateText "" named ++ "_" ++ Calendar.timeText "" named

/-- What is known of a crash. -/
structure Crash where
  /-- What the crash said. -/
  message : String
  /-- Where it happened. -/
  location : String
  /-- How the program got there. -/
  backtrace : String
  /-- When it happened. -/
  stamp : Stamp

/-- What a crash says when its message is no text. -/
def unknownMessage : String := "Unknown panic"

/-- The text of a report. -/
def text (crash : Crash) : String :=
  "Syncrop Indicator Crash Report\n==============================\n\nVersion: " ++ version ++
    "\nTimestamp: " ++ crash.stamp.shown ++ " UTC\nOS: linux x86_64\n\nPanic Message:\n" ++
    crash.message ++ "\n\nLocation:\n" ++ crash.location ++ "\n\nBacktrace:\n" ++
    crash.backtrace ++ "\n"

/-- The name of a report's file, given by the time alone. -/
def fileName (stamp : Stamp) : String := "crash_" ++ stamp.compact ++ ".txt"

/-- Writes a report; the path of its file, with the world after it, if it could
be written. What one that could not be written leaves behind is not told here. -/
def write (world : World) (crash : Crash) : Option (Path × World) :=
  match world.makeLogDirectory with
  | .error _ => none
  | .ok world =>
    let path := world.logDirectory.joinText (fileName crash.stamp)
    match world.files.write world.here path (Text.bytes (text crash)) with
    | .ok files => some (path, { world with files })
    | .error _ => none

/-- What is said on the error output. -/
def notice (written : Option Path) : String :=
  "Syncrop indicator crashed!\n" ++
    (match written with
    | some path => "Crash report saved to: " ++ path.shown ++ "\n"
    | none => "")

end TrayIndicator.CrashReport
