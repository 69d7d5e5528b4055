import TrayIndicator.Settings.Load
import TrayIndicator.Settings.Home

/-!
# The command line

A command line chooses a command and gives values for the run. The options
mean the same at every level: before, between and after the words of a
command. A value given on the command line wins over its variable, and the
variable over the default.
-/

namespace TrayIndicator.CommandLine

/-- How much is told in the log. -/
inductive LogLevel where
  | error | warn | info | debug | trace
  deriving DecidableEq, Repr

namespace LogLevel

/-- The levels in the order of the help. -/
def all : List LogLevel := [.error, .warn, .info, .debug, .trace]

/-- The name of a level. -/
def name : LogLevel → String
  | .error => "error"
  | .warn => "warn"
  | .info => "info"
  | .debug => "debug"
  | .trace => "trace"

/-- The level with a name. -/
def ofName? (name : String) : Option LogLevel := all.find? (·.name == name)

/-- The least level of event that is told. -/
def least : LogLevel → Level
  | .error => .error
  | .warn => .warn
  | .info => .info
  | .debug => .debug
  | .trace => .trace

/-- The level when none is given. -/
def usual : LogLevel := .info

end LogLevel

/-- The commands. -/
inductive Command where
  | tray | doctor | configShow | configPath
  deriving DecidableEq, Repr

/-- The words of a command. -/
def Command.words : Command → String
  | .tray => "tray"
  | .doctor => "doctor"
  | .configShow => "config show"
  | .configPath => "config path"

/-- What a command line asks for. -/
structure Choice where
  /-- How much is told in the log. -/
  logLevel : LogLevel
  /-- The settings file, if one is named. -/
  config : Option Path
  /-- Values laid over the settings. -/
  overrides : Overrides
  /-- The command, if one is named. -/
  command : Option Command
  deriving DecidableEq, Repr

namespace Choice

/-- Does the tray run? It does when no command is named. -/
def runsTray (choice : Choice) : Bool := choice.command = none || choice.command = some .tray

/-- The settings file. -/
def configPath (choice : Choice) (world : World) : Path :=
  choice.config.getD world.settingsFile

/-- The settings of the run. -/
def load (choice : Choice) (world : World) : Except SettingsError Settings × List LogEvent :=
  Settings.effective world (choice.configPath world) choice.overrides

end Choice

/-- The mistakes in a command line. -/
inductive UsageError where
  /-- There is no such option, or no argument is expected. -/
  | unknownArgument
  /-- There is no such command. -/
  | invalidSubcommand
  /-- A value is missing or is not allowed. -/
  | invalidValue
  /-- An option is given twice at one level. -/
  | argumentConflict
  /-- A flag has a value. -/
  | tooManyValues
  /-- A value is no text. -/
  | invalidUtf8
  /-- The command needs a further word. -/
  | missingSubcommand
  /-- The command needs a further word, and nothing else was given. -/
  | nothingGiven
  deriving DecidableEq, Repr

/-- The name of a mistake. -/
def UsageError.name : UsageError → String
  | .unknownArgument => "UnknownArgument"
  | .invalidSubcommand => "InvalidSubcommand"
  | .invalidValue => "InvalidValue"
  | .argumentConflict => "ArgumentConflict"
  | .tooManyValues => "TooManyValues"
  | .invalidUtf8 => "InvalidUtf8"
  | .missingSubcommand => "MissingSubcommand"
  | .nothingGiven => "DisplayHelpOnMissingArgumentOrSubcommand"

/-- Why a command line leads to no run. -/
inductive Stop where
  /-- It has a mistake. -/
  | usage (error : UsageError)
  /-- It asks for help, with the text of it. -/
  | help (text : String)
  /-- It asks for the version, with the text of it. -/
  | version (text : String)
  deriving DecidableEq, Repr

/-- The exit code of a run that does not take place. -/
def Stop.exitCode : Stop → Nat
  | .usage _ => 2
  | .help _ => 0
  | .version _ => 0

/-- The options. -/
inductive Opt where
  | logLevel | config | icon | logFile | opener | companion | expandHome
  deriving DecidableEq, Repr

namespace Opt

/-- The options in the order of the help. -/
def all : List Opt := [.logLevel, .config, .icon, .logFile, .opener, .companion, .expandHome]

/-- The name of an option. -/
def name : Opt → String
  | .logLevel => "log-level"
  | .config => "config"
  | .icon => "icon"
  | .logFile => "log-file"
  | .opener => "opener"
  | .companion => "companion"
  | .expandHome => "expand-home"

/-- The option with a name. -/
def ofName? (name : List UInt8) : Option Opt := all.find? fun opt => Text.bytes opt.name = name

/-- The variable that stands in for an option. -/
def variableName? : Opt → Option String
  | .logLevel => some "SYNCROP_INDICATOR_LOG_LEVEL"
  | .config => some "SYNCROP_INDICATOR_CONFIG"
  | _ => none

end Opt

/-- Where a command line may stand: at its beginning or within a command. -/
inductive Position where
  | root | tray | doctor | config | configShow | configPath
  deriving DecidableEq, Repr

namespace Position

/-- The words that lead to a position. -/
def words : Position → List String
  | .root => []
  | .tray => ["tray"]
  | .doctor => ["doctor"]
  | .config => ["config"]
  | .configShow => ["config", "show"]
  | .configPath => ["config", "path"]

/-- What is said of a position. -/
def about : Position → String
  | .root => "Syncrop system tray indicator - log access and GUI launcher"
  | .tray => "Run the tray indicator (default)"
  | .doctor => "Check the icon, helper programs and log path"
  | .config => "Configuration commands"
  | .configShow => "Show the effective configuration"
  | .configPath => "Show configuration file path"

/-- The positions that one further word leads to. -/
def next : Position → List (String × Position)
  | .root => [("tray", .tray), ("doctor", .doctor), ("config", .config)]
  | .config => [("show", .configShow), ("path", .configPath)]
  | _ => []

/-- The command that ends at a position, if one does. -/
def command? : Position → Option Command
  | .tray => some .tray
  | .doctor => some .doctor
  | .configShow => some .configShow
  | .configPath => some .configPath
  | _ => none

end Position

end TrayIndicator.CommandLine
