import TrayIndicator.Log
import TrayIndicator.Text.Quoted

/-!
# Lines of the log

On the console an event is one line of time, level, speaker, message and
fields. In a log file it is one line of JSON with the same parts.
-/

namespace TrayIndicator

/-- Is the value of a field a text of the program's own, which the console shows
in quotes? -/
def isQuotedField (name : String) : Bool := name = "version" || name = "action" || name = "id"

/-- A field as the console shows it. -/
def consoleField (field : String × String) : String :=
  " " ++ field.1 ++ "=" ++ (if isQuotedField field.1 then Text.quoted field.2 else field.2)

/-- The line of an event on the console. The level is put to the right of five
columns. -/
def LogEvent.consoleLine (event : LogEvent) (time : String) : String :=
  let level := event.level.name
  time ++ " " ++ String.ofList (List.replicate (5 - level.length) ' ') ++ level ++ " " ++
    event.source.target ++ ": " ++ event.message ++ String.join (event.fields.map consoleField) ++
    "\n"

/-- How one character stands in a JSON text. -/
def jsonChar (c : Char) : List Char :=
  if c = '"' then ['\\', '"']
  else if c = '\\' then ['\\', '\\']
  else if c = '\n' then ['\\', 'n']
  else if c = '\r' then ['\\', 'r']
  else if c = '\t' then ['\\', 't']
  else if c = '\x08' then ['\\', 'b']
  else if c = '\x0c' then ['\\', 'f']
  else if c.toNat < 0x20 then
    ['\\', 'u', '0', '0', Nat.digitChar (c.toNat / 16), Nat.digitChar (c.toNat % 16)]
  else [c]

/-- A text in JSON. -/
def jsonText (text : String) : String :=
  String.ofList ('"' :: text.toList.flatMap jsonChar ++ ['"'])

/-- A JSON object of texts. -/
def jsonFields (fields : List (String × String)) : String :=
  "\x7b" ++ String.intercalate "," (fields.map fun field =>
    jsonText field.1 ++ ":" ++ jsonText field.2) ++ "\x7d"

/-- The line of an event in a log file. The message is the first of the
fields. -/
def LogEvent.fileLine (event : LogEvent) (time : String) : String :=
  "\x7b\"timestamp\":" ++ jsonText time ++ ",\"level\":" ++ jsonText event.level.name ++
    ",\"fields\":" ++ jsonFields (("message", event.message) :: event.fields) ++ ",\"target\":" ++
    jsonText event.source.target ++ "\x7d\n"

end TrayIndicator
