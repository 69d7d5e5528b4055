import TrayIndicator.IoError
import TrayIndicator.Log
import TrayIndicator.Launcher

/-!
# The table of children

A launcher of processes keeps the children it has started until it finds that
they have ended. Nothing waits for a child. Each poll tells one of three
things: the child runs on, it has ended, or it cannot be polled; only a child
that runs on stays in the table.
-/

namespace TrayIndicator.Machine

/-- What a poll of a child tells. -/
inductive Poll (ω : Type) where
  /-- It runs on. -/
  | running
  /-- It has ended. -/
  | exited (status : ω)
  /-- It cannot be polled. -/
  | failed (cause : IoError)

/-- The event of a started child. -/
def startedEvent (pid : Nat) : LogEvent :=
  ⟨.debug, .launcher, "Started child process", [("pid", toString pid)]⟩

/-- The event of a child that has ended. -/
def exitedEvent (pid : Nat) (status : String) : LogEvent :=
  ⟨.debug, .launcher, "Child process exited", [("pid", toString pid), ("status", status)]⟩

/-- The event of a child that cannot be polled. -/
def pollFailedEvent (pid : Nat) (cause : IoError) : LogEvent :=
  ⟨.warn, .launcher, "Failed to poll child process",
    [("pid", toString pid), ("error", cause.text)]⟩

/-- The event that a poll of a child leads to, if any. -/
def Poll.event? {ω : Type} (text : ω → String) (pid : Nat) : Poll ω → Option LogEvent
  | .running => none
  | .exited status => some (exitedEvent pid (text status))
  | .failed cause => some (pollFailedEvent pid cause)

/-- Does a poll leave the child in the table? -/
def Poll.keeps {ω : Type} : Poll ω → Bool
  | .running => true
  | _ => false

/-- A child stays exactly when nothing is told of it. -/
theorem Poll.keeps_iff {ω : Type} (text : ω → String) (pid : Nat) (poll : Poll ω) :
    poll.keeps = true ↔ poll.event? text pid = none := by
  cases poll <;> simp [keeps, event?]

/-- What a launcher of processes asks of the system. Every question may change
the state of the system, so a poll is asked once and its answer kept. -/
structure System (σ χ ω : Type) where
  /-- Starts a child for a request. -/
  start : Request → σ → Except IoError χ × σ
  /-- Polls a child. -/
  poll : χ → σ → Poll ω × σ
  /-- The number by which events name a child. -/
  pid : χ → Nat
  /-- How the status of an ended child is told. -/
  text : ω → String

variable {σ χ ω : Type} (system : System σ χ ω)

/-- The table after a start, with what the start answers and the event told. A
failed start leaves the table as it was. -/
def register (table : List χ) : Except IoError χ → Step (List χ) (Except IoError Unit)
  | .ok child => ⟨.ok (), table ++ [child], [startedEvent (system.pid child)]⟩
  | .error cause => ⟨.error cause, table, []⟩

/-- Polls the children of a table one after the other and keeps those that run
on, in their order. -/
def collect : List χ → σ → Step (List χ × σ) Unit
  | [], state => ⟨(), ([], state), []⟩
  | child :: table, state =>
    let answer := system.poll child state
    let later := collect table answer.2
    ⟨(), (if answer.1.keeps then child :: later.state.1 else later.state.1, later.state.2),
      (answer.1.event? system.text (system.pid child)).toList ++ later.events⟩

end TrayIndicator.Machine

namespace TrayIndicator

/-- The launcher of processes on a system. Its state is the table of children
with the state of the system. -/
def Launcher.onSystem {σ χ ω : Type} (system : Machine.System σ χ ω) : Launcher (List χ × σ) where
  start request state :=
    let outcome := system.start request state.2
    let step := Machine.register system state.1 outcome.1
    ⟨step.answer, (step.state, outcome.2), step.events⟩
  reap state := Machine.collect system state.1 state.2

end TrayIndicator
