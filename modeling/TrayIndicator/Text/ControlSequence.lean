import TrayIndicator.Text.Utf8

/-!
# Control sequences

A terminal reads control characters, and sequences that an escape begins, as
orders. Where no terminal reads, a text is written without them: a machine
walks over the bytes, and what it would obey is left out, white space apart.
A sequence that is not completed hides what follows it, up to the next escape.
-/

namespace TrayIndicator.Text

/-- The states of a terminal between two bytes. -/
inductive TerminalState where
  /-- Outside sequences. -/
  | ground
  /-- After an escape. -/
  | escape
  /-- After an escape and intermediate characters. -/
  | escapeMiddle
  /-- At the beginning of an order with parameters. -/
  | order
  /-- In the parameters of an order. -/
  | orderParameters
  /-- After the parameters of an order. -/
  | orderMiddle
  /-- In an order that is not obeyed. -/
  | orderIgnored
  /-- At the beginning of a device string. -/
  | device
  /-- In the parameters of a device string. -/
  | deviceParameters
  /-- After the parameters of a device string. -/
  | deviceMiddle
  /-- In the contents of a device string. -/
  | deviceContents
  /-- In a device string that is not obeyed. -/
  | deviceIgnored
  /-- In an order to the system, which a bell may end. -/
  | systemOrder
  /-- In another string. -/
  | otherString
  deriving DecidableEq, Repr

/-- What a terminal does with a byte. -/
inductive TerminalAction where
  /-- Shows it. -/
  | show'
  /-- Obeys it as a control character. -/
  | execute
  /-- Takes it as a part of a sequence. -/
  | take
  deriving DecidableEq, Repr

open TerminalState in
/-- The next state and the action at a byte. Three controls act alike in all
states. -/
def TerminalState.step (state : TerminalState) (byte : UInt8) : TerminalState × TerminalAction :=
  let n := byte.toNat
  let executed : TerminalState × TerminalAction := (state, if n < 0x20 then .execute else .take)
  if n = 0x18 ∨ n = 0x1A then (ground, .execute)
  else if n = 0x1B then (escape, .take)
  else
    match state with
    | ground =>
      if 0x20 ≤ n ∧ n < 0x80 ∨ 0xC2 ≤ n ∧ n ≤ 0xF4 then (ground, .show') else (ground, .execute)
    | escape =>
      if n < 0x20 ∨ 0x7F ≤ n then executed
      else if n < 0x30 then (escapeMiddle, .take)
      else if n = 0x50 then (device, .take)
      else if n = 0x58 ∨ n = 0x5E ∨ n = 0x5F then (otherString, .take)
      else if n = 0x5B then (order, .take)
      else if n = 0x5D then (systemOrder, .take)
      else (ground, .take)
    | escapeMiddle => if n < 0x30 ∨ 0x7F ≤ n then executed else (ground, .take)
    | order | orderParameters =>
      if n < 0x20 ∨ 0x7F ≤ n then executed
      else if n < 0x30 then (orderMiddle, .take)
      else if n < 0x3C then (orderParameters, .take)
      else if n < 0x40 then (if state = order then orderParameters else orderIgnored, .take)
      else (ground, .take)
    | orderMiddle =>
      if n < 0x30 ∨ 0x7F ≤ n then executed
      else if n < 0x40 then (orderIgnored, .take)
      else (ground, .take)
    | orderIgnored => if n < 0x40 ∨ 0x7F ≤ n then executed else (ground, .take)
    | device | deviceParameters =>
      if n < 0x20 ∨ 0x7F ≤ n then (state, .take)
      else if n < 0x30 then (deviceMiddle, .take)
      else if n < 0x3C then (deviceParameters, .take)
      else if n < 0x40 then (if state = device then deviceParameters else deviceIgnored, .take)
      else (deviceContents, .take)
    | deviceMiddle =>
      if n < 0x30 ∨ 0x7F ≤ n then (state, .take)
      else if n < 0x40 then (deviceIgnored, .take)
      else (deviceContents, .take)
    | deviceContents | deviceIgnored | otherString =>
      (if n = 0x9C then ground else state, .take)
    | systemOrder => (if n = 0x07 then ground else state, .take)

/-- Is a byte written although nothing obeys? What is shown is, but for the
character of deletion, and so is white space. -/
def isWritten (action : TerminalAction) (byte : UInt8) : Bool :=
  match action with
  | .show' => byte != 0x7F
  | .execute => [0x09, 0x0A, 0x0C, 0x0D].contains byte
  | .take => false

/-- Leaves out what a terminal would obey. Without a state the bytes are being
written. -/
def strip : Option TerminalState → List UInt8 → List UInt8
  | _, [] => []
  | none, byte :: rest =>
    let next := TerminalState.ground.step byte
    if isWritten next.2 byte || (0x80 ≤ byte && byte < 0xC0) then byte :: strip none rest
    else strip (some next.1) rest
  | some state, byte :: rest =>
    let next := state.step byte
    if isWritten next.2 byte then byte :: strip none rest else strip (some next.1) rest

/-- The text without what a terminal would obey. -/
def withoutControls (text : String) : String := ofBytesLossy (strip (some .ground) (bytes text))

end TrayIndicator.Text
