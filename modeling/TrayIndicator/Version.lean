/-!
# Name and version

The name of the program and its version, as the command line, the log and
crash reports give them.
-/

namespace TrayIndicator

/-- The name of the program. -/
def programName : String := "syncrop-indicator"

/-- The version of the program. -/
def version : String := "0.2.0"

end TrayIndicator
