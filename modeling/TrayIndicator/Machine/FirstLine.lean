import TrayIndicator.Path

/-!
# The first line of a program

A file that is run is either a script, whose first line names the program that
reads it and may give it one argument, or in the machine's own code. Only the
first bytes of the file are looked at here, as if zeros followed a short file.
-/

namespace TrayIndicator.Machine

/-- The number of bytes that are looked at. -/
def openingLength : Nat := 256

/-- The bytes that are looked at. -/
def openingBytes (content : List UInt8) : List UInt8 :=
  content.take openingLength ++
    List.replicate (openingLength - (content.take openingLength).length) 0

/-- Does a byte stand between words? -/
def isGap (byte : UInt8) : Bool := byte = 0x20 || byte = 0x09

/-- The interpreter and its argument on a line that ends before the given bytes
do. The words end at a gap or a zero; what follows the first gap is one argument
up to a zero. A line of gaps alone names nothing. -/
def interpreterOn (line : List UInt8) : Option (Path × Option (List UInt8)) :=
  let endsWord (byte : UInt8) : Bool := isGap byte || byte = 0
  match line.dropWhile isGap with
  | [] => none
  | named =>
    let after := named.dropWhile fun byte => !endsWord byte
    let argument :=
      match after with
      | byte :: _ =>
        if byte = 0 then none
        else
          match after.dropWhile isGap with
          | [] => none
          | rest => some (rest.takeWhile (· != 0))
      | [] => none
    some (⟨named.takeWhile fun byte => !endsWord byte⟩, argument)

/-- The bytes without the gaps at their end. -/
def withoutLastGaps (bytes : List UInt8) : List UInt8 :=
  (bytes.reverse.dropWhile isGap).reverse

/-- The interpreter that the bytes after the mark of a script name. Without a
line feed the name may have been cut off, unless a gap or a zero follows it. -/
def interpreter? (after : List UInt8) : Option (Path × Option (List UInt8)) :=
  if (after.takeWhile (· != 0)).contains 0x0A then
    interpreterOn (withoutLastGaps (after.takeWhile (· != 0x0A)))
  else if (after.dropWhile isGap).any fun byte => isGap byte || byte = 0 then
    interpreterOn (withoutLastGaps after.dropLast)
  else none

/-- The interpreter that the contents of a script name. What begins otherwise, or
names none, is no script. -/
def scriptLine? (content : List UInt8) : Option (Path × Option (List UInt8)) :=
  match openingBytes content with
  | 0x23 :: 0x21 :: after => interpreter? after
  | _ => none

/-- Do the first bytes mark a program in the machine's own code? They hold the mark of such
a file, its type, which is at fixed addresses or at any, and the machine. -/
def marksOwnCode (content : List UInt8) : Bool :=
  match openingBytes content with
  | 0x7F :: 0x45 :: 0x4C :: 0x46 :: after =>
    let typeAndMachine := (after.drop 12).take 4
    typeAndMachine = [0x02, 0x00, 0x3E, 0x00] || typeAndMachine = [0x03, 0x00, 0x3E, 0x00]
  | _ => false

end TrayIndicator.Machine
