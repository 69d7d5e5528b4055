import TrayIndicator.Text.Quoted
import TrayIndicator.Decimal.Shortest
import TrayIndicator.Toml.Document

/-!
# Complaints about values

When a value has the wrong type, the complaint names its line and column,
shows the line with carets under the value, and says what was found and what
was wanted.
-/

namespace TrayIndicator.Toml

/-- What a complaint calls a value. -/
def Value.found : Value → String
  | .text value => "string " ++ Text.quoted value
  | .number (.integer value) => "integer `" ++ toString value ++ "`"
  | .number (.floating value) => "floating point `" ++ value.shown ++ "`"
  | .boolean value => if value then "boolean `true`" else "boolean `false`"
  | .moment _ => "map"
  | .array _ => "sequence"
  | .table _ _ => "map"

/-- What a complaint calls an item of a document. -/
def Item.found : Item → String
  | .value held _ => held.found
  | .table _ _ _ => "map"
  | .tables _ => "sequence"

/-- Where a piece of text begins and how the line around it looks. -/
structure Place where
  /-- The line, counted from 1. -/
  line : Nat
  /-- The character within the line, counted from 1. -/
  column : Nat
  /-- The line without its line feed. -/
  text : String
  /-- How many carets stand under the piece. -/
  carets : Nat

/-- The number of bytes of characters in UTF-8. -/
def byteLength (source : List Char) : Nat := source.foldl (fun count c => count + c.utf8Size) 0

/-- The place of a piece of a text. The carets number its bytes, but at least
one and no more than the bytes of the line. -/
def Place.of (source : List Char) (span : Span) : Place :=
  let before := source.take (source.length - span.start.length)
  let lineStart := before.reverse.takeWhile (· != '\n')
  let text := lineStart.reverse ++ span.start.takeWhile (· != '\n')
  { line := before.count '\n' + 1
    column := lineStart.length + 1
    text := String.ofList text
    carets := max 1 (min (byteLength span.start - byteLength span.stop) (byteLength text)) }

/-- So many spaces. -/
def spaces (count : Nat) : String := String.ofList (List.replicate count ' ')

/-- The lines that show a place, with what is wrong there. -/
def Place.report (place : Place) (problem : String) : String :=
  let number := toString place.line
  let gutter := spaces (number.length + 1)
  "TOML parse error at line " ++ number ++ ", column " ++ toString place.column ++ "\n" ++
    gutter ++ "|\n" ++
    number ++ " | " ++ place.text ++ "\n" ++
    gutter ++ "|" ++ spaces place.column ++ String.ofList (List.replicate place.carets '^') ++
    "\n" ++
    problem ++ "\n"

/-- An item of the wrong type: what was found, what was wanted, and where. -/
structure Complaint where
  /-- What a complaint calls the item. -/
  found : String
  /-- What should stand there. -/
  wanted : String
  /-- Where the item stands. -/
  place : Place

/-- The text of a complaint. -/
def Complaint.text (complaint : Complaint) : String :=
  complaint.place.report ("invalid type: " ++ complaint.found ++ ", expected " ++ complaint.wanted)

/-- The complaint about an item of a document. -/
def Document.complaint (document : Document) (item : Item) (wanted : String) : Complaint :=
  ⟨item.found, wanted, .of document.source (document.spanOf item)⟩

end TrayIndicator.Toml
