/-!
# Characters and layout of TOML text

The reader of the format works on character lists: a `Reader` takes a value
off the front and returns the rest, or refuses. This module holds the
character classes, blanks, line ends and comments.
-/

namespace TrayIndicator.Toml

/-- Takes a value off the front of a text, or refuses the text. -/
abbrev Reader (α : Type) := List Char → Option (α × List Char)

/-- Puts characters in front of what a reader of text took. -/
def push (front : List Char) : Option (List Char × List Char) → Option (List Char × List Char)
  | some (taken, rest) => some (front ++ taken, rest)
  | none => none

@[simp]
theorem push_some (front taken rest : List Char) :
    push front (some (taken, rest)) = some (front ++ taken, rest) := rfl

@[simp]
theorem push_none (front : List Char) : push front none = none := rfl

/-- Space and tab, which separate tokens within a line. -/
def isSpace (c : Char) : Bool := c = ' ' || c = '\t'

/-- Characters outside the controls: a tab, U+0020 to U+007E, and everything
from U+0080 on. -/
def isPlain (c : Char) : Bool := c = '\t' || (' ' ≤ c && c ≤ '~') || '\x80' ≤ c

/-- Characters that stand for themselves in a basic string. -/
def isBasic (c : Char) : Bool := isPlain c && c != '"' && c != '\\'

/-- Characters that stand for themselves in a literal string. -/
def isLiteral (c : Char) : Bool := isPlain c && c != '\''

/-- Characters of a key written without quotes. -/
def isBare (c : Char) : Bool := c.isAlphanum || c = '_' || c = '-'

/-- The rest after spaces and tabs. -/
def skipSpaces (source : List Char) : List Char := source.dropWhile isSpace

/-- The rest after one line end: a line feed, or a carriage return with it. -/
def newline? : List Char → Option (List Char)
  | '\n' :: rest => some rest
  | '\r' :: '\n' :: rest => some rest
  | _ => none

/-- The rest after a comment, which ends before the first control character. -/
def skipComment : List Char → List Char
  | '#' :: rest => rest.dropWhile isPlain
  | source => source

/-- The rest of the text after what may follow a statement on its line: spaces,
a comment, and the line end or the end of the text. -/
def lineEnd? (source : List Char) : Option (List Char) :=
  match skipComment (skipSpaces source) with
  | [] => some []
  | rest => newline? rest

/-- The rest after spaces, line ends and comments, as between the items of an
array. The flag tells whether the text before belongs to a comment. -/
def skipLayout : Bool → List Char → List Char
  | _, [] => []
  | inComment, c :: rest =>
    if inComment && isPlain c then skipLayout true rest
    else if isSpace c || c = '\n' then skipLayout false rest
    else if c = '#' then skipLayout true rest
    else if c = '\r' && rest.head? = some '\n' then skipLayout false rest
    else c :: rest

end TrayIndicator.Toml
