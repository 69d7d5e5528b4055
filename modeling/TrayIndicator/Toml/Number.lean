import TrayIndicator.Toml.Token
import TrayIndicator.Decimal.Binary64

/-!
# Reading numbers and moments

Integers are decimal with an optional sign and no leading zero, or unsigned
hexadecimal, octal or binary; all must fit 64 bits with sign. Floating-point
numbers have a fraction, an exponent or both, or are `inf` or `nan`. An
underscore may stand between two digits. Dates and times check the range of
each part on its own.
-/

namespace TrayIndicator.Toml

open Decimal

/-- Reads the digits after a first one; an underscore counts only before a digit. -/
def moreDigits (isDigit : Char → Bool) : List Char → List Char × List Char
  | [] => ([], [])
  | c :: rest =>
    if isDigit c then
      let more := moreDigits isDigit rest
      (c :: more.1, more.2)
    else if c = '_' then
      match rest with
      | [] => ([], ['_'])
      | d :: rest' =>
        if isDigit d then
          let more := moreDigits isDigit rest'
          (d :: more.1, more.2)
        else ([], '_' :: d :: rest')
    else ([], c :: rest)

/-- Reads at least one digit. -/
def digits (isDigit : Char → Bool) : Reader (List Char)
  | [] => none
  | c :: rest =>
    if isDigit c then
      let more := moreDigits isDigit rest
      some (c :: more.1, more.2)
    else none

/-- The value of a digit character of base up to sixteen. -/
def digitValue (c : Char) : Nat :=
  if c ≤ '9' then c.toNat - 48
  else if c ≤ 'F' then c.toNat - 55
  else c.toNat - 87

/-- The number that digits spell in a base. -/
def natOfDigits (base : Nat) (shown : List Char) : Nat :=
  shown.foldl (fun value c => value * base + digitValue c) 0

/-- The range of the format's integers. -/
def isInt64 (n : Int) : Bool := -9223372036854775808 ≤ n && n < 9223372036854775808

/-- A number of the format. -/
inductive Number where
  /-- A whole number of 64 bits with sign. -/
  | integer (value : Int)
  /-- A floating-point number. -/
  | floating (value : Binary64)

/-- Reads an optional sign; the flag tells whether it is a minus. -/
def sign : List Char → Bool × List Char
  | '+' :: rest => (false, rest)
  | '-' :: rest => (true, rest)
  | rest => (false, rest)

/-- Reads the digits of a decimal whole number, which has no leading zero. -/
def wholeDigits : Reader (List Char)
  | '0' :: rest => some (['0'], rest)
  | rest => digits Char.isDigit rest

/-- Reads an unsigned whole number of another base after its mark. -/
def based (base : Nat) (isDigit : Char → Bool) (source : List Char) :
    Option (Number × List Char) := do
  let (shown, rest) ← digits isDigit source
  let value : Int := natOfDigits base shown
  if isInt64 value then some (.integer value, rest) else none

/-- Reads an exponent after its letter. -/
def exponent (source : List Char) : Option (Int × List Char) := do
  let (negative, rest) := sign source
  let (shown, rest) ← digits Char.isDigit rest
  let value : Int := natOfDigits 10 shown
  some (if negative then -value else value, rest)

/-- The floating-point number of a sign, digits and a scale. A decimal beyond
the greatest number is refused; one below the least reads as an infinity. -/
def floatingOf (negative : Bool) (shown : List Char) (scale : Int) : Option Number :=
  match Binary64.ofDecimal negative (natOfDigits 10 shown) scale with
  | .infinite false => none
  | value => some (.floating value)

/-- Reads what may follow the whole digits of a decimal number. -/
def decimalAfter (negative : Bool) (whole : List Char) :
    List Char → Option (Number × List Char)
  | '.' :: rest => do
    let (places, rest) ← digits Char.isDigit rest
    let (power, rest) ←
      match rest with
      | 'e' :: rest | 'E' :: rest => exponent rest
      | _ => some (0, rest)
    let value ← floatingOf negative (whole ++ places) (power - places.length)
    some (value, rest)
  | 'e' :: rest | 'E' :: rest => do
    let (power, rest) ← exponent rest
    let value ← floatingOf negative whole power
    some (value, rest)
  | rest =>
    let magnitude : Int := natOfDigits 10 whole
    let value := if negative then -magnitude else magnitude
    if isInt64 value then some (.integer value, rest) else none

/-- Is the character a hexadecimal digit? -/
def isHexDigit (c : Char) : Bool :=
  c.isDigit || ('a' ≤ c && c ≤ 'f') || ('A' ≤ c && c ≤ 'F')

/-- Reads a number. -/
def number (source : List Char) : Option (Number × List Char) :=
  match source with
  | '0' :: 'x' :: rest => based 16 isHexDigit rest
  | '0' :: 'o' :: rest => based 8 (fun c => '0' ≤ c && c ≤ '7') rest
  | '0' :: 'b' :: rest => based 2 (fun c => c = '0' || c = '1') rest
  | _ =>
    match sign source with
    | (negative, 'i' :: 'n' :: 'f' :: rest) => some (.floating (.infinite negative), rest)
    | (_, 'n' :: 'a' :: 'n' :: rest) => some (.floating .nan, rest)
    | (negative, rest) =>
      match wholeDigits rest with
      | some (whole, rest) => decimalAfter negative whole rest
      | none => none

/-- Reads a number of exactly `count` digits within a range. -/
def fixedDigits (count low high : Nat) (source : List Char) : Option (List Char) :=
  let shown := source.take count
  if shown.length = count && shown.all Char.isDigit then
    let value := natOfDigits 10 shown
    if low ≤ value && value ≤ high then some (source.drop count) else none
  else none

/-- The rest after one given character. -/
def after? (mark : Char) : List Char → Option (List Char)
  | c :: rest => if c = mark then some rest else none
  | [] => none

/-- The rest after a year, a month and a day. The day is not checked against
the month. -/
def date? (source : List Char) : Option (List Char) := do
  let rest ← fixedDigits 4 0 9999 source
  let rest ← after? '-' rest
  let rest ← fixedDigits 2 1 12 rest
  let rest ← after? '-' rest
  fixedDigits 2 1 31 rest

/-- The rest after a time of day; the second goes up to a leap second. -/
def time? (source : List Char) : Option (List Char) := do
  let rest ← fixedDigits 2 0 23 source
  let rest ← after? ':' rest
  let rest ← fixedDigits 2 0 59 rest
  let rest ← after? ':' rest
  let rest ← fixedDigits 2 0 60 rest
  match rest with
  | '.' :: fraction =>
    if (fraction.takeWhile Char.isDigit).isEmpty then some rest
    else some (fraction.dropWhile Char.isDigit)
  | _ => some rest

/-- The rest after a distance from universal time. -/
def offset? : List Char → Option (List Char)
  | 'Z' :: rest | 'z' :: rest => some rest
  | '+' :: rest | '-' :: rest => do
    let rest ← fixedDigits 2 0 23 rest
    let rest ← after? ':' rest
    fixedDigits 2 0 59 rest
  | _ => none

/-- The rest after a date, a time, or both with an optional offset. -/
def moment? (source : List Char) : Option (List Char) :=
  match date? source with
  | none => time? source
  | some rest =>
    match rest with
    | c :: later =>
      if c = 'T' || c = 't' || c = ' ' then
        match time? later with
        | some rest => some ((offset? rest).getD rest)
        | none => some rest
      else some rest
    | [] => some []

end TrayIndicator.Toml
