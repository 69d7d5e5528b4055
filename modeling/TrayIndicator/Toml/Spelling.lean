import TrayIndicator.Toml.Token

/-!
# Writing strings

A string is written in one of five forms. Backslashes ask for a literal form,
in which they need no escape, provided that the text has no control character
but tab and line feed, no three single quotes in a row and none at its end.
Text of several lines is written on several lines.
-/

namespace TrayIndicator.Toml

/-- The forms in which strings are written. -/
inductive StringForm where
  /-- Between double quotes on one line, with escapes. -/
  | basic
  /-- Between three double quotes on several lines, with escapes. -/
  | multiBasic
  /-- Between single quotes on one line. -/
  | literal
  /-- Between three single quotes on one line, for text with a single quote. -/
  | tripleLiteral
  /-- Between three single quotes on several lines. -/
  | multiLiteral
  deriving DecidableEq, Repr

/-- Is the character a control other than tab and line feed? -/
def isControl (c : Char) : Bool := (c < ' ' || c = '\x7f') && c != '\t' && c != '\n'

/-- Are there three single quotes in a row? -/
def hasTripleQuote : List Char → Bool
  | [] => false
  | c :: rest => (c = '\'' && ['\'', '\''].isPrefixOf rest) || hasTripleQuote rest

/-- Can the text be written without escapes? -/
def allowsLiteral (text : List Char) : Bool :=
  !text.any isControl && !hasTripleQuote text && text.getLast? != some '\''

/-- The form in which a text is written. -/
def StringForm.of (text : List Char) : StringForm :=
  if text.contains '\\' && allowsLiteral text then
    if text.contains '\n' then .multiLiteral
    else if text.contains '\'' then .tripleLiteral
    else .literal
  else if text.contains '\n' then .multiBasic
  else .basic

/-- A digit of a number in upper-case hexadecimal. -/
def upperHexDigit (n : Nat) : Char := "0123456789ABCDEF".toList.getD n '0'

/-- A character as it stands between double quotes on several lines. Line feeds
stay as they are. -/
def escapeInLines (c : Char) : List Char :=
  if c = '\x08' then ['\\', 'b']
  else if c = '\t' then ['\\', 't']
  else if c = '\x0c' then ['\\', 'f']
  else if c = '\r' then ['\\', 'r']
  else if c = '"' then ['\\', '"']
  else if c = '\\' then ['\\', '\\']
  else if isControl c then
    ['\\', 'u', '0', '0', upperHexDigit (c.toNat / 16), upperHexDigit (c.toNat % 16)]
  else [c]

/-- A character as it stands between double quotes on one line. -/
def escapeInLine (c : Char) : List Char :=
  if c = '\n' then ['\\', 'n'] else escapeInLines c

/-- Three double quotes. -/
def tripleDouble : List Char := ['"', '"', '"']

/-- Three single quotes. -/
def tripleSingle : List Char := ['\'', '\'', '\'']

/-- A text as it is written in a form. -/
def StringForm.write (text : List Char) : StringForm → List Char
  | .basic => '"' :: text.flatMap escapeInLine ++ ['"']
  | .multiBasic => tripleDouble ++ '\n' :: text.flatMap escapeInLines ++ tripleDouble
  | .literal => '\'' :: text ++ ['\'']
  | .tripleLiteral => tripleSingle ++ text ++ tripleSingle
  | .multiLiteral => tripleSingle ++ '\n' :: text ++ tripleSingle

/-- A text as it is written. -/
def spell (text : List Char) : List Char := (StringForm.of text).write text

end TrayIndicator.Toml
