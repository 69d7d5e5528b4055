import TrayIndicator.CommandLine.Basic
import TrayIndicator.Text.ControlSequence
import TrayIndicator.Version

/-!
# The help

The help of a position says what it is for, how it is used, which words may
follow and which options there are, in two columns. A line is as long as it has
to be; one that a value breaks goes on in the second column. Words to be typed
are bold on a terminal. The help is written as where there is none, so these
and any other orders to it, such as a value may hold, are left out.
-/

namespace TrayIndicator.CommandLine

/-- The text of the version. -/
def versionText : String := programName ++ " " ++ version ++ "\n"

/-- The word that asks for help. -/
def helpWord : String := "help"

/-- What is said of the word that asks for help. -/
def helpAbout : String := "Print this message or the help of the given subcommand(s)"

/-- A text in pieces, each with whether it is bold. -/
abbrev Marked := List (Bool × String)

/-- The width of a text. -/
def Marked.width (text : Marked) : Nat := (text.map (·.2.length)).foldl (· + ·) 0

/-- A text as it is written for a terminal. -/
def Marked.written (text : Marked) : String :=
  String.join (text.map fun (bold, piece) =>
    if bold then "\x1b[1m" ++ piece ++ "\x1b[0m" else piece)

/-- So many spaces. -/
def blanks (count : Nat) : String := String.ofList (List.replicate count ' ')

/-- Rows in two columns, indented by two spaces, the second column aligned, also
where it has several lines. -/
def columns (rows : List (Marked × String)) : String :=
  let width := (rows.map (·.1.width)).foldl max 0
  String.join (rows.map fun (name, about) =>
    "  " ++ name.written ++ blanks (width - name.width + 2) ++
      String.intercalate ("\n" ++ blanks (width + 4)) (about.splitOn "\n") ++ "\n")

/-- What is said of an option. -/
def Opt.about : Opt → String
  | .logLevel => "Log level"
  | .config => "Path to config file"
  | .icon => "Tray icon image"
  | .logFile => "Log file opened by \"Open log file\""
  | .opener => "Program used to open the log file"
  | .companion => "Program launched when the icon is clicked"
  | .expandHome =>
    "Expand a leading `~` in the log file path. Can only turn expansion on; " ++
      "`expand_home = true` in the config file is not undone by omitting it"

/-- An option as it is written, with the name of its value. -/
def Opt.pattern (opt : Opt) : Marked :=
  let valueName := String.ofList (opt.name.toList.map fun c => if c = '-' then '_' else c.toUpper)
  [(false, "    "), (true, "--" ++ opt.name),
    (false, if opt = .expandHome then "" else " <" ++ valueName ++ ">")]

/-- What is said of an option's variable, default and values. -/
def Opt.notes (world : World) (opt : Opt) : String :=
  (match opt.variableName? with
    | some name =>
      " [env: " ++ name ++ "=" ++ Text.ofBytesLossy ((world.value? name).getD []) ++ "]"
    | none => "") ++
  (if opt = .logLevel then
    " [default: " ++ LogLevel.usual.name ++ "] [possible values: " ++
      String.intercalate ", " (LogLevel.all.map LogLevel.name) ++ "]"
  else "")

/-- The words of a position with the program's name before them. -/
def Position.usage (position : Position) : String :=
  String.intercalate " " (programName :: position.words)

/-- The help of a position. -/
def Position.help (world : World) (position : Position) : String :=
  let commands :=
    if position.next.isEmpty then ""
    else
      "\nCommands:\n" ++
        columns (position.next.map (fun (word, next) => ([(true, word)], next.about)) ++
          [([(true, helpWord)], helpAbout)])
  let need :=
    match position with
    | .root => " [COMMAND]"
    | .config => " <COMMAND>"
    | _ => ""
  let options := Opt.all.map fun opt => (opt.pattern, opt.about ++ opt.notes world)
  let flag (short long about : String) : Marked × String :=
    ([(true, short), (false, ", "), (true, long)], about)
  let flags := flag "-h" "--help" "Print help" ::
    (if position = .root then [flag "-V" "--version" "Print version"] else [])
  Text.withoutControls <| position.about ++ "\n\nUsage: " ++ position.usage ++ " [OPTIONS]" ++
    need ++ "\n" ++ commands ++ "\nOptions:\n" ++ columns (options ++ flags)

/-- The help of the word that asks for help. -/
def Position.helpOfHelp (position : Position) : String :=
  Text.withoutControls <| helpAbout ++ "\n\nUsage: " ++ position.usage ++ " " ++ helpWord ++
    " [COMMAND]...\n\nArguments:\n" ++
    columns [([(false, "[COMMAND]...")], "Print help for the subcommand(s)")]

/-- The help that words after the word for help ask for. -/
def Position.helpFor (world : World) (position : Position) : List (List UInt8) → Stop
  | [] => .help (position.help world)
  | word :: words =>
    match position.next.find? fun next => Text.bytes next.1 = word with
    | some (_, next) => helpFor world next words
    | none =>
      if !position.next.isEmpty && Text.bytes helpWord = word && words.isEmpty then
        .help position.helpOfHelp
      else .usage .invalidSubcommand

end TrayIndicator.CommandLine
