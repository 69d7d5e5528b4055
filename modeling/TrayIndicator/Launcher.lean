import TrayIndicator.IoError
import TrayIndicator.Path
import TrayIndicator.Log

/-!
# Launchers

The indicator starts two kinds of programs: an opener with one argument, and a
program alone. A launcher answers such requests and collects children that
have ended, keeping a state of its own. The scripted launcher starts nothing:
it notes what it is asked and answers as its script says.
-/

namespace TrayIndicator

/-- The outcome of one step: an answer, the state after it, and the events told. -/
structure Step (σ α : Type) where
  /-- What the step answers. -/
  answer : α
  /-- The state after the step. -/
  state : σ
  /-- The events told during the step, in order. -/
  events : List LogEvent

/-- What a launcher is asked to start. -/
inductive Request where
  /-- The opener with the thing to open. -/
  | open (opener : String) (target : Path)
  /-- A program without arguments. -/
  | spawn (program : String)
  deriving DecidableEq, Repr

/-- A way of starting programs, with a state of type `σ`. -/
structure Launcher (σ : Type) where
  /-- Starts what is asked for, without waiting for its end. -/
  start : Request → σ → Step σ (Except IoError Unit)
  /-- Collects the children that have ended, without waiting for others. -/
  reap : σ → Step σ Unit

/-- What a launcher was asked. -/
inductive Call where
  /-- To start something. -/
  | start (request : Request)
  /-- To collect children. -/
  | reap
  deriving DecidableEq, Repr

/-- A launcher that also notes what it is asked; the notes come first. -/
def Launcher.noting {σ : Type} (launcher : Launcher σ) : Launcher (List Call × σ) where
  start request state :=
    let step := launcher.start request state.2
    ⟨step.answer, (state.1 ++ [.start request], step.state), step.events⟩
  reap state :=
    let step := launcher.reap state.2
    ⟨(), (state.1 ++ [.reap], step.state), step.events⟩

/-- The state of the scripted launcher. -/
structure Recording where
  /-- The failures of the requests to come; nothing, also past the end, means
  success. -/
  script : List (Option IoError)
  /-- What was asked so far, in order. -/
  calls : List Call

/-- The launcher that notes what it is asked and answers as its script says. -/
def Launcher.scripted : Launcher Recording where
  start request recording :=
    let answer : Except IoError Unit :=
      match recording.script with
      | some error :: _ => .error error
      | _ => .ok ()
    ⟨answer, ⟨recording.script.tail, recording.calls ++ [.start request]⟩, []⟩
  reap recording := ⟨(), { recording with calls := recording.calls ++ [.reap] }, []⟩

end TrayIndicator
