import TrayIndicator.Toml.Value

/-!
# Statements

A text of the format is a list of statements, one a line: a key with its
value, the header of a table, or the header of a further table of an array.
Each keeps the place where it was written, so that a later complaint can name
it.
-/

namespace TrayIndicator.Toml

/-- A piece of the text, given by what is left of the text where the piece
begins and where it ends. -/
structure Span where
  /-- The text from the beginning of the piece on. -/
  start : List Char
  /-- The text after the piece. -/
  stop : List Char

/-- One statement with its place. -/
inductive Statement where
  /-- A key with its value; the span is the value's. -/
  | pair (key : Key) (value : Value) (span : Span)
  /-- The header of a table. -/
  | header (key : Key) (span : Span)
  /-- The header of a further table of an array. -/
  | arrayHeader (key : Key) (span : Span)

/-- Reads a key with its value. -/
def pair (source : List Char) : Option (Statement × List Char) :=
  match key source with
  | some (key, '=' :: rest) =>
    let start := skipSpaces rest
    match value start with
    | some (value, rest) => some (.pair key value ⟨start, rest⟩, rest)
    | none => none
  | _ => none

/-- Reads a header, whose brackets are doubled for an array. -/
def header (source : List Char) : Option (Statement × List Char) :=
  match source with
  | '[' :: '[' :: rest =>
    match key rest with
    | some (key, ']' :: ']' :: rest) => some (.arrayHeader key ⟨source, rest⟩, rest)
    | _ => none
  | '[' :: rest =>
    match key rest with
    | some (key, ']' :: rest) => some (.header key ⟨source, rest⟩, rest)
    | _ => none
  | _ => none

/-- Reads one statement. -/
def statement (source : List Char) : Option (Statement × List Char) :=
  match source with
  | '[' :: _ => header source
  | _ => pair source

/-- Reads statements to the end of the text, at most so many lines. -/
def statementsWithin : Nat → List Char → Option (List Statement)
  | 0, _ => none
  | count + 1, source =>
    match skipSpaces source with
    | [] => some []
    | source =>
      match lineEnd? source with
      | some rest => statementsWithin count rest
      | none =>
        match statement source with
        | none => none
        | some (first, rest) =>
          match lineEnd? rest with
          | none => none
          | some rest => (statementsWithin count rest).map (first :: ·)

/-- The text without a byte order mark at its beginning. -/
def skipByteOrderMark : List Char → List Char
  | '\uFEFF' :: rest => rest
  | source => source

/-- The statements of a text; `none` if the text is not of the format. -/
def statements (source : List Char) : Option (List Statement) :=
  statementsWithin (source.length + 1) (skipByteOrderMark source)

end TrayIndicator.Toml
