import TrayIndicator.World
import TrayIndicator.Machine.Script
import TrayIndicator.Machine.Signal

/-!
# Running scripts

Running a script changes the tree of files and ends with a status, or gets as
far as a loop that still has to wait. Each command returns a number; a script
that ends without saying so returns the last one.
-/

namespace TrayIndicator.Machine

/-- How a process ended. -/
inductive Status where
  /-- It returned a number. -/
  | exited (code : Nat)
  /-- A signal ended it. -/
  | signalled (signal : Nat)
  deriving DecidableEq, Repr

/-- A status as the log shows it. -/
def Status.text : Status → String
  | .exited code => "exit status: " ++ toString code
  | .signalled signal =>
    match signalName? signal with
    | some name => "signal: " ++ toString signal ++ " (" ++ name ++ ")"
    | none => "signal: " ++ toString signal

/-- What a script was started with. -/
structure Frame where
  /-- The name that it was started by. -/
  name : List UInt8
  /-- Its arguments. -/
  arguments : List (List UInt8)
  /-- Does it end with the first command that fails? -/
  strict : Bool

/-- The text of a process for itself; no number is known to be its own. -/
def ownNumber : List UInt8 := Text.bytes "$$"

/-- The bytes that a piece stands for, after a command that returned `code`. -/
def Piece.expand (environment : List (String × List UInt8)) (frame : Frame) (code : Nat) :
    Piece → List UInt8
  | .literal bytes => bytes
  | .argument number => if number = 0 then frame.name else frame.arguments.getD (number - 1) []
  | .arguments => (frame.arguments.intersperse [0x20]).flatten
  | .count => Text.bytes (toString frame.arguments.length)
  | .self => ownNumber
  | .status => Text.bytes (toString code)
  | .named name => (environment.lookup name).getD []

/-- Is the piece text, be it empty? -/
def Piece.isLiteral : Piece → Bool
  | .literal _ => true
  | _ => false

/-- The words that a word stands for: one, or as many as there are arguments.
Parameters that stand for nothing are no word, unless quotes are around them. -/
def expand (environment : List (String × List UInt8)) (frame : Frame) (code : Nat)
    (word : Word) : List (List UInt8) :=
  match word with
  | [.arguments] | [.literal [], .arguments] => frame.arguments
  | _ =>
    let bytes := word.flatMap (Piece.expand environment frame code)
    if bytes.isEmpty && !word.any Piece.isLiteral then [] else [bytes]

/-- Prints a format once for each argument, the argument in place of its
directive. -/
def printOnce (format : List UInt8) (argument : List UInt8) : List UInt8 :=
  match format with
  | 0x25 :: 0x73 :: rest => argument ++ printOnce rest argument
  | 0x25 :: 0x25 :: rest => 0x25 :: printOnce rest argument
  | 0x5C :: 0x6E :: rest => 0x0A :: printOnce rest argument
  | byte :: rest => byte :: printOnce rest argument
  | [] => []

/-- What a command does: new files, or the end of the process. -/
inductive Effect where
  /-- The command returned a number. -/
  | returned (world : World) (code : Nat)
  /-- The command ended the process. -/
  | ended (world : World) (status : Status)
  /-- The command stopped the process. -/
  | stopped (world : World)

/-- The number that digits spell, if it is one that fits in thirty-one bits. -/
def number? (bytes : List UInt8) : Option Nat :=
  if bytes.isEmpty || bytes.any fun byte => byte < 0x30 || 0x39 < byte then none
  else
    let value := bytes.foldl (fun value byte => value * 10 + (byte.toNat - 48)) 0
    if value < 0x80000000 then some value else none

/-- Does a test on files and texts hold? -/
def holds (world : World) : List (List UInt8) → Bool
  | [operand] => !operand.isEmpty
  | [operator, operand] =>
    if operator = Text.bytes "-e" then world.exists? ⟨operand⟩
    else if operator = Text.bytes "-d" then world.files.isDirectory world.here ⟨operand⟩
    else if operator = Text.bytes "-n" then !operand.isEmpty
    else if operator = Text.bytes "-z" then operand.isEmpty
    else false
  | [first, operator, operand] =>
    if operator = Text.bytes "-e" then !world.exists? ⟨operand⟩
    else if operator = Text.bytes "=" then first = operand
    else if operator = Text.bytes "!=" then first != operand
    else false
  | _ => false

/-- Moves a file. -/
def move (world : World) (source target : Path) : World × Nat :=
  match world.files.find world.here source with
  | .ok (place, node) =>
    match world.files.lookup false world.here target with
    | .ok (.vacant goal) | .ok (.node goal _) =>
      ({ world with files := (world.files.erase place).put goal node }, 0)
    | .error _ => (world, 1)
  | .error _ => (world, 1)

/-- Is a program found by its name or path? -/
def hasProgram (world : World) (name : List UInt8) : Bool :=
  if name.contains Path.slash then world.files.isProgram world.here ⟨name⟩
  else
    (Path.searchEntries ((world.value? "PATH").getD [])).any fun entry =>
      world.files.isProgram world.here (entry.join ⟨name⟩)

/-- Sends a signal to processes in turn; of those only the sender is there. What
is no number is an error of the command. -/
def sendTo (world : World) (signal : Nat) : List (List UInt8) → Nat → Effect
  | [], code => .returned world code
  | target :: rest, code =>
    if target = ownNumber then
      match reactionTo signal with
      | .ends => .ended world (.signalled signal)
      | .stops => .stopped world
      | .ignored => sendTo world signal rest code
    else if (number? target).isSome then sendTo world signal rest 1
    else .returned world 2

/-- Reads the operands of a command that sends a signal: first, if at all, the
signal, by its number or name after a hyphen or as the value of an option. -/
def send (world : World) (operands : List (List UInt8)) : Effect :=
  let deliver (signal : Nat) (targets : List (List UInt8)) : Effect :=
    if targets.isEmpty then .returned world 2 else sendTo world signal targets 0
  let named (bytes : List UInt8) : Option Nat := (Text.ofBytes? bytes).bind signalOf?
  match operands with
  | (0x2D :: option) :: rest =>
    match named option with
    | some signal => deliver signal rest
    | none =>
      if option = Text.bytes "-" then deliver terminate rest
      else if option = Text.bytes "l" then .returned world 0
      else if option = Text.bytes "s" then
        match rest with
        | name :: targets =>
          match named name with
          | some signal => deliver signal targets
          | none => .returned world 2
        | [] => .returned world 2
      else .returned world 2
  | _ => deliver terminate operands

/-- Is the text a time to wait? -/
def isInterval (bytes : List UInt8) : Bool :=
  !bytes.isEmpty && bytes.all fun byte => byte = 0x2E || (0x30 ≤ byte && byte ≤ 0x39)

/-- Programs that fail when they are not told what to work on. -/
def needsOperands (program : String) : Bool :=
  ["mv", "cp", "rm", "ln", "mkdir", "rmdir", "touch", "chmod", "chown", "readlink", "basename",
    "dirname", "test"].contains program

/-- Runs expanded words after a command that returned `last`, with the file for
the output opened already. -/
def perform (world : World) (last : Nat) (output : Option Path) (words : List (List UInt8)) :
    Effect :=
  let emit (bytes : List UInt8) : Effect :=
    match output with
    | none => .returned world 0
    | some path =>
      match world.files.write world.here path bytes with
      | .ok files => .returned { world with files } 0
      | .error _ => .returned world 1
  match words with
  | [] => .returned world 0
  | name :: operands =>
    let known (names : List String) : Bool := names.any fun text => name = Text.bytes text
    if known ["exit", "return"] then
      match operands with
      | [] => .ended world (.exited last)
      | operand :: _ =>
        match number? operand with
        | some code => .ended world (.exited (code % 256))
        | none => .ended world (.exited 2)
    else if known ["true", ":"] then .returned world 0
    else if known ["false"] then .returned world 1
    else if known ["kill"] then send world operands
    else if known ["["] then .returned world (if holds world operands.dropLast then 0 else 1)
    else if known ["test"] then .returned world (if holds world operands then 0 else 1)
    else if known ["printf", "echo"] || hasProgram world name then
      let program := ((Path.steps ⟨name⟩).getLast?.bind Text.ofBytes?).getD ""
      match program, operands with
      | "printf", [format] => emit (printOnce format [])
      | "printf", format :: values => emit (values.flatMap (printOnce format))
      | "printf", [] => .returned world (if name.contains Path.slash then 1 else 2)
      | "echo", _ => emit ((operands.intersperse [0x20]).flatten ++ [0x0A])
      | "cat", _ =>
        let contents := operands.map fun operand => world.read ⟨operand⟩
        match emit (contents.flatMap fun content => content.toOption.getD []) with
        | .returned world code =>
          .returned world (if contents.all Except.isOk then code else 1)
        | effect => effect
      | "sleep", _ =>
        .returned world (if !operands.isEmpty && operands.all isInterval then 0 else 1)
      | "mv", [source, target] =>
        let moved := move world ⟨source⟩ ⟨target⟩
        .returned moved.1 moved.2
      | "mv", _ | "false", _ => .returned world 1
      | _, [] => .returned world (if needsOperands program then 1 else 0)
      | _, _ => .returned world 0
    else .returned world 127

/-- Does a command run after one that returned a number? -/
def Link.runsAfter : Link → Nat → Bool
  | .always, _ => true
  | .ifOk, code => code = 0
  | .ifFailed, code => code != 0

/-- The number of a command for the one that its words returned. -/
def Command.code (command : Command) (code : Nat) : Nat :=
  if !command.negated then code else if code = 0 then 1 else 0

/-- Runs a command after one that returned `last`; what is passed over keeps that
number. The file for its output is emptied first; without it the command does
not run. -/
def Command.run (command : Command) (frame : Frame) (last : Nat) (world : World) : Effect :=
  let words := command.words.flatMap (expand world.environment frame last)
  let finish : Effect → Effect
    | .returned world code => .returned world (command.code code)
    | effect => effect
  if !command.link.runsAfter last then .returned world last
  else
    match command.output with
    | none => finish (perform world last none words)
    | some target =>
      let path : Path := ⟨(expand world.environment frame last target).flatten⟩
      match world.files.write world.here path [] with
      | .ok files => finish (perform { world with files } last (some path) words)
      | .error _ => finish (.returned world 2)

/-- Runs commands one after the other; the last one's number counts. -/
def runCommands (frame : Frame) : List Command → World → Nat → Effect
  | [], world, code => .returned world code
  | command :: rest, world, last =>
    match command.run frame last world with
    | .returned world code => runCommands frame rest world code
    | effect => effect

/-- Does what follows ask how the command before it went? -/
def asksBack : List Statement → Bool
  | .command command :: _ => command.link != .always
  | _ => false

/-- Does a number end a strict script? It does not if it is asked for. -/
def Frame.endsBy (frame : Frame) (negated : Bool) (code : Nat) (rest : List Statement) : Bool :=
  frame.strict && code != 0 && !negated && !asksBack rest

/-- How far a script got. -/
inductive Progress where
  /-- It ended. -/
  | ended (status : Status)
  /-- It was stopped and does not go on. -/
  | stopped
  /-- It waits in the loop that its remaining statements begin with. -/
  | waiting (rest : List Statement)

/-- Runs a script as far as it gets without waiting. A loop whose test holds is
run once and then waits. -/
def runScript (frame : Frame) : List Statement → World → Nat → World × Progress
  | [], world, code => (world, .ended (.exited code))
  | .command command :: rest, world, last =>
    match command.run frame last world with
    | .returned world code =>
      if frame.endsBy command.negated code rest then (world, .ended (.exited code))
      else runScript frame rest world code
    | .ended world status => (world, .ended status)
    | .stopped world => (world, .stopped)
  | .loop test body :: rest, world, last =>
    match runCommands frame test world last with
    | .ended world status => (world, .ended status)
    | .stopped world => (world, .stopped)
    | .returned world 0 =>
      match runCommands frame body world 0 with
      | .ended world status => (world, .ended status)
      | .stopped world => (world, .stopped)
      | .returned world code =>
        if frame.endsBy false code [] then (world, .ended (.exited code))
        else (world, .waiting (.loop test body :: rest))
    | .returned world _ => runScript frame rest world 0

end TrayIndicator.Machine
