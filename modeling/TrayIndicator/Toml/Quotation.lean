import TrayIndicator.Toml.Token

/-!
# Reading strings

A string is basic (double quotes, with escapes) or literal (single quotes,
none), on one line or, with tripled quotes, on several. On several lines a
line end reads as one line feed however it is written, the first one directly
after the opening quotes is dropped, and a backslash at the end of a line
removes the layout up to the next visible character.
-/

namespace TrayIndicator.Toml

/-- The character that a one-letter escape stands for. -/
def letterEscape? (letter : Char) : Option Char :=
  if letter = 'b' then some '\x08'
  else if letter = 't' then some '\t'
  else if letter = 'n' then some '\n'
  else if letter = 'f' then some '\x0c'
  else if letter = 'r' then some '\r'
  else if letter = '"' then some '"'
  else if letter = '\\' then some '\\'
  else none

/-- The value of a hexadecimal digit of either case. -/
def hexDigit? (c : Char) : Option Nat :=
  if '0' ≤ c ∧ c ≤ '9' then some (c.toNat - 48)
  else if 'a' ≤ c ∧ c ≤ 'f' then some (c.toNat - 87)
  else if 'A' ≤ c ∧ c ≤ 'F' then some (c.toNat - 55)
  else none

/-- The number that hexadecimal digits spell. -/
def hexNumber? (digits : List Char) : Option Nat :=
  digits.foldlM (fun value c => (hexDigit? c).map (value * 16 + ·)) 0

/-- The character with the number that the digits spell. Surrogates and
numbers past U+10FFFF name no character. -/
def numbered? (digits : List Char) : Option Char := do
  let value ← hexNumber? digits
  if value.isValidChar then some (Char.ofNat value) else none

/-- Reads a one-line basic string after its opening quote. -/
def basicText : List Char → Option (List Char × List Char)
  | [] => none
  | c :: rest =>
    if c = '"' then some ([], rest)
    else if c = '\\' then
      match rest with
      | [] => none
      | letter :: rest =>
        if letter = 'u' then
          match rest with
          | d1 :: d2 :: d3 :: d4 :: rest =>
            match numbered? [d1, d2, d3, d4] with
            | some shown => push [shown] (basicText rest)
            | none => none
          | _ => none
        else if letter = 'U' then
          match rest with
          | d1 :: d2 :: d3 :: d4 :: d5 :: d6 :: d7 :: d8 :: rest =>
            match numbered? [d1, d2, d3, d4, d5, d6, d7, d8] with
            | some shown => push [shown] (basicText rest)
            | none => none
          | _ => none
        else
          match letterEscape? letter with
          | some shown => push [shown] (basicText rest)
          | none => none
    else if isBasic c then push [c] (basicText rest)
    else none

/-- Does the text close a string of several lines, after one quote of its
kind? Up to two more quotes may stand directly before the closing ones; they
belong to the string and are returned with the rest. -/
def closing? (quote : Char) : List Char → Option (List Char × List Char)
  | q1 :: q2 :: rest =>
    if q1 = quote ∧ q2 = quote then
      match rest with
      | q3 :: q4 :: rest' =>
        if q3 = quote ∧ q4 = quote then some ([quote, quote], rest')
        else if q3 = quote then some ([quote], q4 :: rest')
        else some ([], rest)
      | [q3] => if q3 = quote then some ([quote], []) else some ([], rest)
      | [] => some ([], [])
    else none
  | _ => none

/-- Reads a basic string of several lines after its opening quotes. The flag
tells whether layout is being removed after a backslash. -/
def multiBasicText : Bool → List Char → Option (List Char × List Char)
  | _, [] => none
  | trimming, c :: rest =>
    if trimming && (isSpace c || c = '\n') then multiBasicText true rest
    else if c = '\r' then
      match rest with
      | '\n' :: rest =>
        if trimming then multiBasicText true rest else push ['\n'] (multiBasicText false rest)
      | _ => none
    else if c = '"' then
      match closing? '"' rest with
      | some ending => some ending
      | none => push ['"'] (multiBasicText false rest)
    else if c = '\\' then
      if (newline? (skipSpaces rest)).isSome then multiBasicText true rest
      else
      match rest with
      | [] => none
      | letter :: rest =>
        if letter = 'u' then
          match rest with
          | d1 :: d2 :: d3 :: d4 :: rest =>
            match numbered? [d1, d2, d3, d4] with
            | some shown => push [shown] (multiBasicText false rest)
            | none => none
          | _ => none
        else if letter = 'U' then
          match rest with
          | d1 :: d2 :: d3 :: d4 :: d5 :: d6 :: d7 :: d8 :: rest =>
            match numbered? [d1, d2, d3, d4, d5, d6, d7, d8] with
            | some shown => push [shown] (multiBasicText false rest)
            | none => none
          | _ => none
        else
          match letterEscape? letter with
          | some shown => push [shown] (multiBasicText false rest)
          | none => none
    else if c = '\n' || isBasic c then push [c] (multiBasicText false rest)
    else none

/-- Reads a one-line literal string after its opening quote. -/
def literalText (source : List Char) : Option (List Char × List Char) :=
  match source.dropWhile isLiteral with
  | '\'' :: rest => some (source.takeWhile isLiteral, rest)
  | _ => none

/-- Reads a literal string of several lines after its opening quotes. -/
def multiLiteralText : List Char → Option (List Char × List Char)
  | [] => none
  | c :: rest =>
    if c = '\r' then
      match rest with
      | '\n' :: rest => push ['\n'] (multiLiteralText rest)
      | _ => none
    else if c = '\'' then
      match closing? '\'' rest with
      | some ending => some ending
      | none => push ['\''] (multiLiteralText rest)
    else if c = '\n' || isLiteral c then push [c] (multiLiteralText rest)
    else none

/-- The rest after the line end directly after opening quotes, if there is one. -/
def skipFirstNewline (source : List Char) : List Char := (newline? source).getD source

/-- Reads a string in any of the four forms; the opening quotes tell which. -/
def stringText : List Char → Option (List Char × List Char)
  | '"' :: '"' :: '"' :: rest => multiBasicText false (skipFirstNewline rest)
  | '"' :: rest => basicText rest
  | '\'' :: '\'' :: '\'' :: rest => multiLiteralText (skipFirstNewline rest)
  | '\'' :: rest => literalText rest
  | _ => none

end TrayIndicator.Toml
