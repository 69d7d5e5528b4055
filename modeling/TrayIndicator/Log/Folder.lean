import TrayIndicator.Settings.Home
import TrayIndicator.Version

/-!
# The folder of log files

The tray logs to a file for each day, in a folder of its own. Only so many log
files are kept: when a file is opened, the oldest are removed until there is
room for one more.
-/

namespace TrayIndicator.LogFolder

/-- How many log files there may be, the one of the day included. -/
def kept : Nat := 7

/-- The name of the log file of a day. -/
def fileName (day : String) : String := programName ++ "." ++ day ++ ".log"

/-- The log file of a day. -/
def file (world : World) (day : String) : Path := world.logDirectory.joinText (fileName day)

/-- Does a file with the name count as a log file? -/
def isLogName (name : Files.Name) : Bool :=
  match Text.ofBytes? name with
  | some text => text.startsWith programName && text.endsWith "log"
  | none => false

/-- The log files in the folder at a place, the oldest first. -/
def logFiles (tree : Files.Tree) (place : Files.Place) : List Files.Name :=
  (tree.entries place).filterMap fun (name, node) =>
    match node with
    | .file _ _ => if isLogName name then some name else none
    | _ => none

/-- The log files that must go to make room for one more. -/
def surplus (names : List Files.Name) : List Files.Name := names.take (names.length + 1 - kept)

/-- Removes the oldest log files to make room for one more. -/
def makeRoom (world : World) : World :=
  match world.files.find world.here world.logDirectory with
  | .ok (place, _) =>
    { world with
      files := (surplus (logFiles world.files place)).foldl
        (fun tree name => tree.erase (place ++ [name])) world.files }
  | .error _ => world

/-- Adds to the log file of a day. -/
def add (world : World) (day : String) (text : String) : Except IoError World :=
  (world.files.append world.here (file world day) (Text.bytes text)).map fun files =>
    { world with files }

/-- Makes room for the log file of a day and opens it. -/
def openFile (world : World) (day : String) : Except IoError World := add (makeRoom world) day ""

end TrayIndicator.LogFolder
