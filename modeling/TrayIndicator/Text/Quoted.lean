import TrayIndicator.Text.Printable

/-!
# Quoted texts

Messages show a found text between double quotes. The usual controls, the
quote and the backslash are escaped by letter, and a character that would not
be seen is shown by its number in lower-case hexadecimal between braces.
-/

namespace TrayIndicator.Text

/-- The digits of a number in lower-case hexadecimal, without leading zeros. -/
def hexDigits (n : Nat) : List Char := Nat.toDigits 16 n

/-- How one character is shown between quotes. -/
def quoteChar (c : Char) : List Char :=
  if c = '\t' then ['\\', 't']
  else if c = '\r' then ['\\', 'r']
  else if c = '\n' then ['\\', 'n']
  else if c = '\x00' then ['\\', '0']
  else if c = '"' then ['\\', '"']
  else if c = '\\' then ['\\', '\\']
  else if isUnprintable c then '\\' :: 'u' :: '\x7b' :: hexDigits c.toNat ++ ['\x7d']
  else [c]

/-- The text between double quotes, escaped for showing. -/
def quoted (text : String) : String :=
  String.ofList ('"' :: text.toList.flatMap quoteChar ++ ['"'])

end TrayIndicator.Text
