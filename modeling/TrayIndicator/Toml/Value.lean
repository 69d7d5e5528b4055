import TrayIndicator.Toml.Quotation
import TrayIndicator.Toml.Number

/-!
# Keys and values

A value is a string, a number, a boolean, a moment, an array or an inline
table. Arrays and inline tables nest fewer than 128 deep, and a dotted key has
fewer than 128 parts. Within one inline table no key is defined twice; a
dotted key may extend only what dotted keys of the same table have made.
-/

namespace TrayIndicator.Toml

/-- A value of the format. -/
inductive Value where
  /-- A string in any of its written forms. -/
  | text (value : String)
  /-- An integer or a floating-point number. -/
  | number (value : Number)
  /-- A boolean. -/
  | boolean (value : Bool)
  /-- A date or time, kept as it is written. -/
  | moment (written : String)
  /-- An array. -/
  | array (items : List Value)
  /-- A table in order of definition. It is open while only dotted keys of the
  table around it have made it. -/
  | table (isOpen : Bool) (entries : List (String × Value))

/-- A key written with quotes or without. -/
def simpleKey (source : List Char) : Option (List Char × List Char) :=
  match source with
  | '"' :: rest => basicText rest
  | '\'' :: rest => literalText rest
  | _ =>
    match source.takeWhile isBare with
    | [] => none
    | key => some (key, source.dropWhile isBare)

/-- Reads the parts of a dotted key with the spaces around them; the count
bounds the number of parts. -/
def keyParts : Nat → List Char → Option (List String × List Char)
  | 0, _ => none
  | count + 1, source =>
    match simpleKey (skipSpaces source) with
    | none => none
    | some (part, rest) =>
      match skipSpaces rest with
      | '.' :: rest =>
        match keyParts count rest with
        | some (parts, rest) => some (String.ofList part :: parts, rest)
        | none => none
      | rest => some ([String.ofList part], rest)

/-- Arrays and inline tables nest this deep, and a key has this many parts. -/
def greatestDepth : Nat := 127

/-- A dotted key: the path to its table and the name within it. -/
structure Key where
  /-- The tables that lead to the entry. -/
  path : List String
  /-- The name of the entry. -/
  name : String

/-- Reads a dotted key with the spaces around it. -/
def key (source : List Char) : Option (Key × List Char) :=
  match keyParts greatestDepth source with
  | some (parts, rest) => (parts.getLast?).map fun name => (⟨parts.dropLast, name⟩, rest)
  | none => none

/-- Reads a value that holds no other value. -/
def scalar (source : List Char) : Option (Value × List Char) :=
  match source with
  | '"' :: _ | '\'' :: _ =>
    match stringText source with
    | some (text, rest) => some (.text (String.ofList text), rest)
    | none => none
  | 't' :: 'r' :: 'u' :: 'e' :: rest => some (.boolean true, rest)
  | 'f' :: 'a' :: 'l' :: 's' :: 'e' :: rest => some (.boolean false, rest)
  | _ =>
    match moment? source with
    | some rest =>
      some (.moment (String.ofList (source.take (source.length - rest.length))), rest)
    | none =>
      match number source with
      | some (value, rest) => some (.number value, rest)
      | none => none

/-- Adds an entry to an inline table; dotted keys make the open tables on the
way. It is refused where the name is taken or the way is closed. -/
def addEntry (name : String) (value : Value) :
    List String → List (String × Value) → Option (List (String × Value))
  | [], entries =>
    if entries.any (·.1 == name) then none else some (entries ++ [(name, value)])
  | step :: path, entries =>
    match entries.lookup step with
    | none => (addEntry name value path []).map fun made => entries ++ [(step, .table true made)]
    | some (.table true inner) =>
      (addEntry name value path inner).map fun made =>
        entries.map fun entry => if entry.1 == step then (step, .table true made) else entry
    | some _ => none

/-- Reads the items of an array after its bracket or after a comma. -/
def arrayItems (item : Reader Value) : Nat → Reader (List Value)
  | 0, _ => none
  | count + 1, source =>
    match skipLayout false source with
    | ']' :: rest => some ([], rest)
    | source =>
      match item source with
      | none => none
      | some (value, rest) =>
        match skipLayout false rest with
        | ']' :: rest => some ([value], rest)
        | ',' :: rest =>
          match arrayItems item count rest with
          | some (values, rest) => some (value :: values, rest)
          | none => none
        | _ => none

/-- Reads the entries of an inline table after its brace or after a comma, on
top of those read before. -/
def inlineEntries (item : Reader Value) :
    Nat → List (String × Value) → Reader (List (String × Value))
  | 0, _, _ => none
  | count + 1, entries, source =>
    match key source with
    | some (key, '=' :: rest) =>
      match item (skipSpaces rest) with
      | none => none
      | some (value, rest) =>
        match addEntry key.name value key.path entries with
        | none => none
        | some entries =>
          match skipSpaces rest with
          | '\x7d' :: rest => some (entries, rest)
          | ',' :: rest => inlineEntries item count entries rest
          | _ => none
    | _ => none

/-- Reads a value in which arrays and inline tables may nest so deep. -/
def valueWithin : Nat → Reader Value
  | 0, source => scalar source
  | depth + 1, source =>
    match source with
    | '[' :: rest =>
      match arrayItems (valueWithin depth) (rest.length + 1) rest with
      | some (items, rest) => some (.array items, rest)
      | none => none
    | '\x7b' :: rest =>
      match skipSpaces rest with
      | '\x7d' :: rest => some (.table false [], rest)
      | _ =>
        match inlineEntries (valueWithin depth) (rest.length + 1) [] rest with
        | some (entries, rest) => some (.table false entries, rest)
        | none => none
    | _ => scalar source

/-- Reads a value. -/
def value : Reader Value := valueWithin greatestDepth

end TrayIndicator.Toml
