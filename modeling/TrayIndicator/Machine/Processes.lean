import TrayIndicator.Machine.Image
import TrayIndicator.Machine.Children

/-!
# Starting processes

The requests of the indicator become processes. Processes run when time is
given to them, in the order of their start; those that have ended are told of
when they are collected. The launcher knows its children by their numbers, and
the host knows what has become of them.
-/

namespace TrayIndicator.Machine

/-- A process that was started. -/
structure Process where
  /-- Its number. -/
  number : Nat
  /-- What it was started with. -/
  frame : Frame
  /-- How far it got. -/
  progress : Progress

/-- The program and the arguments of a request. -/
def Request.words : Request → List UInt8 × List (List UInt8)
  | .open opener target => (Text.bytes opener, [target.bytes])
  | .spawn program => (Text.bytes program, [])

/-- A system with its files and processes. -/
structure Host where
  /-- The world around the indicator. -/
  world : World
  /-- The processes that were not collected yet. -/
  processes : List Process
  /-- The number of the next process. -/
  next : Nat
  /-- Are ended children collected by the system itself? -/
  ignoresChildren : Bool
  /-- What the system makes of files that are no scripts. -/
  loader : Loader

namespace Host

/-- A process for a request, not run yet. -/
def process (host : Host) (request : Request) : Except IoError Process :=
  let words := Request.words request
  if words.1.contains 0 || words.2.any (·.contains 0) then .error .zeroInProgram
  else
    (Image.of host.loader host.world words.1 words.2).map fun image =>
      ⟨host.next, image.frame, .waiting image.statements⟩

/-- Starts a process for a request, and answers its number. -/
def start (host : Host) (request : Request) : Except IoError Nat × Host :=
  match host.process request with
  | .ok process =>
    (.ok process.number,
      { host with processes := host.processes ++ [process], next := host.next + 1 })
  | .error cause => (.error cause, { host with next := host.next + 1 })

/-- Polls the process with a number. One that has ended is forgotten then. -/
def poll (host : Host) (number : Nat) : Poll Status × Host :=
  match host.processes.find? (·.number == number) with
  | none => (.failed .noChild, host)
  | some process =>
    match process.progress with
    | .waiting _ | .stopped => (.running, host)
    | .ended status =>
      (if host.ignoresChildren then .failed .noChild else .exited status,
        { host with processes := host.processes.filter (·.number != number) })

/-- The host as the system of a launcher. -/
def system : System Host Nat Status where
  start request host := host.start request
  poll number host := host.poll number
  pid := id
  text := Status.text

/-- Gives time to processes in their order; each runs as far as it gets. -/
def runAll : List Process → World → World × List Process
  | [], world => (world, [])
  | process :: rest, world =>
    match process.progress with
    | .ended _ | .stopped =>
      let later := runAll rest world
      (later.1, process :: later.2)
    | .waiting statements =>
      let run := runScript process.frame statements world 0
      let later := runAll rest run.1
      (later.1, { process with progress := run.2 } :: later.2)

/-- Gives time to all processes. -/
def pass (host : Host) : Host :=
  let run := runAll host.processes host.world
  { host with world := run.1, processes := run.2 }

/-- Gives time to all processes so often that those that can end do. -/
def exhaust (host : Host) : Host := Nat.repeat pass (host.processes.length + 1) host

end Host

end TrayIndicator.Machine

namespace TrayIndicator

/-- A machine: the host, and the table of the indicator's children. -/
structure Machine extends Machine.Host where
  /-- The numbers of the children that were not collected yet. -/
  children : List Nat

/-- The machine with a table of children and the state of a host. -/
def Machine.ofPair (state : List Nat × Machine.Host) : Machine := ⟨state.2, state.1⟩

/-- The launcher that starts processes on a host. -/
def Launcher.processes : Launcher Machine where
  start request machine :=
    let step := (Launcher.onSystem Machine.Host.system).start request
      (machine.children, machine.toHost)
    ⟨step.answer, .ofPair step.state, step.events⟩
  reap machine :=
    let step := (Launcher.onSystem Machine.Host.system).reap (machine.children, machine.toHost)
    ⟨(), .ofPair step.state, step.events⟩

namespace Machine

/-- A machine without children. -/
def start (world : World) (ignoresChildren : Bool) : Machine :=
  ⟨⟨world, [], 1, ignoresChildren, .byMark⟩, []⟩

/-- Gives time to all children. -/
def pass (machine : Machine) : Machine := { machine with toHost := machine.toHost.pass }

/-- Gives time to the children and collects those that have ended, so often
that all that can end do, and while more are left than wanted. -/
def settle (left : Nat) : Nat → Machine → Step Machine Unit
  | 0, machine => ⟨(), machine, []⟩
  | rounds + 1, machine =>
    if machine.children.length ≤ left then ⟨(), machine, []⟩
    else
      let step := Launcher.processes.reap machine.pass
      let later := settle left rounds step.state
      ⟨(), later.state, step.events ++ later.events⟩

end Machine

end TrayIndicator
