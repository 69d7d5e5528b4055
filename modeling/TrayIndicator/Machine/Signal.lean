/-!
# Signals

A process can be sent signals, which have numbers. The first thirty-one have
names of their own. A process that does not care for a signal ends by it, stops
by it, or does not notice it.
-/

namespace TrayIndicator.Machine

/-- The names of the signals from 1 on, without the letters that all begin with. -/
def signalNames : List String := [
  "HUP", "INT", "QUIT", "ILL", "TRAP", "ABRT", "BUS", "FPE", "KILL", "USR1", "SEGV", "USR2",
  "PIPE", "ALRM", "TERM", "STKFLT", "CHLD", "CONT", "STOP", "TSTP", "TTIN", "TTOU", "URG", "XCPU",
  "XFSZ", "VTALRM", "PROF", "WINCH", "IO", "PWR", "SYS"]

/-- The name of a signal, if it has one. -/
def signalName? : Nat → Option String
  | 0 => none
  | number + 1 => signalNames[number]?.map ("SIG" ++ ·)

/-- What a signal does to a process that does not care for it. -/
inductive Reaction where
  /-- It ends the process. -/
  | ends
  /-- It stops the process until it is told to go on. -/
  | stops
  /-- It goes unnoticed. -/
  | ignored
  deriving DecidableEq, Repr

/-- The reaction to a signal. The number 0 only asks whether the process is there. -/
def reactionTo (number : Nat) : Reaction :=
  if [0, 17, 18, 23, 28].contains number then .ignored
  else if [19, 20, 21, 22].contains number then .stops
  else .ends

/-- The signal that ends a process when none is named. -/
def terminate : Nat := 15

/-- The first number that no signal has. -/
def signalBound : Nat := 65

/-- The signal that a number or a name spells, whatever the case of its letters.
The sixteenth has no name here, and the real-time signals are named from both
ends of their range. -/
def signalOf? (text : String) : Option Nat :=
  if !text.isEmpty && text.all Char.isDigit then
    (text.toNat?).filter (· < signalBound)
  else
    let name := text.toUpper
    if name = "STKFLT" then none
    else if name = "RTMIN" then some 34
    else if name = "RTMAX" then some 64
    else (signalNames.idxOf? name).map (· + 1)

end TrayIndicator.Machine
