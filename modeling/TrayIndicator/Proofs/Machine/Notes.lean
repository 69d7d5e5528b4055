import TrayIndicator.Machine.Processes

/-!
# Runs of a launcher of processes

A launcher of processes is driven through any requests and collections, on any
system: which starts fail, what each poll answers, and what goes on in between
is open. What the launcher learns from the system can be noted, with the children
numbered by their start, since a system may give a pid again. Taking notes
changes nothing, and the launcher of the machine runs as the launcher on its
host does.
-/

namespace TrayIndicator

namespace Machine

/-- What a launcher learns from its system. -/
inductive Note (χ ω : Type) where
  /-- A child was started. -/
  | started (child : Nat × χ)
  /-- A start failed. -/
  | refused (cause : IoError)
  /-- A child was polled. -/
  | polled (child : Nat × χ) (answer : Poll ω)

variable {σ χ ω : Type} (system : System σ χ ω)

namespace Note

/-- The number of the child that a note is about. -/
def number? : Note χ ω → Option Nat
  | .started child | .polled child _ => some child.1
  | .refused _ => none

/-- Is a note about a child? -/
def isAbout (child : Nat × χ) (note : Note χ ω) : Bool := note.number? == some child.1

/-- Does a note tell that a child has ended or cannot be polled? -/
def ends (child : Nat × χ) : Note χ ω → Bool
  | .polled other answer => other.1 == child.1 && !answer.keeps
  | _ => false

/-- The event that is told of a note, if any. -/
def event? : Note χ ω → Option LogEvent
  | .started child => some (startedEvent (system.pid child.2))
  | .refused _ => none
  | .polled child answer => answer.event? system.text (system.pid child.2)

/-- The note of a poll. -/
def ofPoll (poll : (Nat × χ) × Poll ω) : Note χ ω := .polled poll.1 poll.2

/-- A note that a child has ended is about the child. -/
theorem number?_of_ends {child : Nat × χ} {note : Note χ ω} (h : note.ends child = true) :
    note.number? = some child.1 := by
  cases note with
  | started other => cases h
  | refused cause => cases h
  | polled other answer =>
    rw [ends, Bool.and_eq_true, beq_iff_eq] at h
    rw [number?, h.1]

end Note

/-- The children whose start is noted, in order. -/
def started (notes : List (Note χ ω)) : List (Nat × χ) :=
  notes.filterMap fun
    | .started child => some child
    | _ => none

/-- The children that were started and that no poll has found ended or could not
poll, in the order of their start. -/
def pending (notes : List (Note χ ω)) : List (Nat × χ) :=
  (started notes).filter fun child => !notes.any (Note.ends child)

/-- The system that also notes what it answers. It gives each child the number of
those started before it. -/
def System.noting : System (List (Note χ ω) × σ) (Nat × χ) ω where
  start request state :=
    let outcome := system.start request state.2
    match outcome.1 with
    | .ok child =>
      let numbered := ((started state.1).length, child)
      (.ok numbered, state.1 ++ [.started numbered], outcome.2)
    | .error cause => (.error cause, state.1 ++ [.refused cause], outcome.2)
  poll child state :=
    let answer := system.poll child.2 state.2
    (answer.1, state.1 ++ [.polled child answer.1], answer.2)
  pid child := system.pid child.2
  text := system.text

/-- A noted poll is the poll, with a note of its answer. -/
theorem System.noting_poll (child : Nat × χ) (state : List (Note χ ω) × σ) :
    system.noting.poll child state = ((system.poll child.2 state.2).1,
      state.1 ++ [.polled child (system.poll child.2 state.2).1],
      (system.poll child.2 state.2).2) := rfl

/-- Events name a numbered child as they name the child. -/
theorem System.noting_pid (child : Nat × χ) : system.noting.pid child = system.pid child.2 := rfl

/-- Statuses are told as before. -/
theorem System.noting_text : system.noting.text = system.text := rfl

/-- What happens to a launcher: requests, collections, and whatever goes on in
the system meanwhile. -/
inductive Turn (σ : Type) where
  | start (request : Request)
  | reap
  | meanwhile (change : σ → σ)

/-- The same turn where notes are taken. -/
def Turn.noted : Turn σ → Turn (List (Note χ ω) × σ)
  | .start request => .start request
  | .reap => .reap
  | .meanwhile change => .meanwhile fun state => (state.1, change state.2)

end Machine

open Machine

/-- One turn of a launcher, told how a change of the system changes its state. -/
def Launcher.turn {σ τ : Type} (launcher : Launcher τ) (within : (σ → σ) → τ → τ) :
    Turn σ → τ → Step τ (Option (Except IoError Unit))
  | .start request, state =>
    let step := launcher.start request state
    ⟨some step.answer, step.state, step.events⟩
  | .reap, state =>
    let step := launcher.reap state
    ⟨none, step.state, step.events⟩
  | .meanwhile change, state => ⟨none, within change state, []⟩

/-- The turns of a launcher one after the other, with all answers and events. -/
def Launcher.run {σ τ : Type} (launcher : Launcher τ) (within : (σ → σ) → τ → τ) :
    List (Turn σ) → τ → Step τ (List (Option (Except IoError Unit)))
  | [], state => ⟨[], state, []⟩
  | turn :: turns, state =>
    let step := launcher.turn within turn state
    let later := launcher.run within turns step.state
    ⟨step.answer :: later.answer, later.state, step.events ++ later.events⟩

namespace Machine

variable {σ χ ω : Type} (system : System σ χ ω)

/-- One turn of the launcher on a system; the table is the launcher's own. -/
def System.turn : Turn σ → List χ × σ → Step (List χ × σ) (Option (Except IoError Unit)) :=
  (Launcher.onSystem system).turn fun change state => (state.1, change state.2)

/-- The turns of the launcher on a system. -/
def System.run : List (Turn σ) → List χ × σ →
    Step (List χ × σ) (List (Option (Except IoError Unit))) :=
  (Launcher.onSystem system).run fun change state => (state.1, change state.2)

/-- The turns of the launcher on a system from the beginning, with notes. -/
def System.notedRun (turns : List (Turn σ)) (state : σ) :
    Step (List (Nat × χ) × List (Note χ ω) × σ) (List (Option (Except IoError Unit))) :=
  system.noting.run (turns.map Turn.noted) ([], [], state)

section Turns

variable {request : Request} (state : List χ × σ)

/-- A start that the system grants adds the child at the end and tells of it. -/
theorem System.turn_start_ok {child : χ} (h : (system.start request state.2).1 = .ok child) :
    system.turn (.start request) state =
      ⟨some (.ok ()), (state.1 ++ [child], (system.start request state.2).2),
        [startedEvent (system.pid child)]⟩ := by
  simp [System.turn, Launcher.turn, Launcher.onSystem, register, h]

/-- A start that the system refuses answers why, and leaves the table. -/
theorem System.turn_start_error {cause : IoError}
    (h : (system.start request state.2).1 = .error cause) :
    system.turn (.start request) state =
      ⟨some (.error cause), (state.1, (system.start request state.2).2), []⟩ := by
  simp [System.turn, Launcher.turn, Launcher.onSystem, register, h]

/-- A collection answers nothing. -/
theorem System.turn_reap :
    system.turn .reap state = ⟨none, (collect system state.1 state.2).state,
      (collect system state.1 state.2).events⟩ := rfl

/-- A run is its first turn and the run of the others. -/
theorem System.run_cons (turn : Turn σ) (turns : List (Turn σ)) :
    system.run (turn :: turns) state =
      let step := system.turn turn state
      let later := system.run turns step.state
      ⟨step.answer :: later.answer, later.state, step.events ++ later.events⟩ := rfl

end Turns

section NotedTurns

variable {request : Request} (table : List (Nat × χ)) (notes : List (Note χ ω)) {inner : σ}

/-- A noted start that the system grants adds the child with its number. -/
theorem System.noting_turn_ok {child : χ} (h : (system.start request inner).1 = .ok child) :
    system.noting.turn (.start request) (table, notes, inner) =
      let numbered := ((started notes).length, child)
      ⟨some (.ok ()), (table ++ [numbered], notes ++ [.started numbered],
        (system.start request inner).2), [startedEvent (system.pid child)]⟩ := by
  simp [System.turn, Launcher.turn, Launcher.onSystem, register, System.noting, h]

/-- A noted start that the system refuses adds its cause to the notes. -/
theorem System.noting_turn_error {cause : IoError}
    (h : (system.start request inner).1 = .error cause) :
    system.noting.turn (.start request) (table, notes, inner) =
      ⟨some (.error cause), (table, notes ++ [.refused cause],
        (system.start request inner).2), []⟩ := by
  simp [System.turn, Launcher.turn, Launcher.onSystem, register, System.noting, h]

end NotedTurns

/-- The state of the launcher without the notes. -/
def forget (state : List (Nat × χ) × List (Note χ ω) × σ) : List χ × σ :=
  (state.1.map Prod.snd, state.2.2)

section Forgetting

/-- Notes do not change how children are collected. -/
theorem collect_forget (table : List (Nat × χ)) (notes : List (Note χ ω)) (state : σ) :
    let noted := collect system.noting table (notes, state)
    collect system (table.map Prod.snd) state = ⟨(), forget noted.state, noted.events⟩ := by
  induction table generalizing notes state with
  | nil => rfl
  | cons child table ih =>
    have hlater := ih (notes ++ [.polled child (system.poll child.2 state).1])
      (system.poll child.2 state).2
    have hnoted := system.noting_poll child (notes, state)
    simp only [forget] at hlater ⊢
    -- the same child is kept or dropped on both sides, since the answer is the same
    by_cases hkeeps : (system.poll child.2 state).1.keeps = true
    · have hnotedKeeps : (system.noting.poll child (notes, state)).1.keeps = true := hkeeps
      simp only [List.map_cons, collect, if_pos hkeeps, if_pos hnotedKeeps]
      rw [hnoted, hlater]
      rfl
    · have hnotedKeeps : ¬ (system.noting.poll child (notes, state)).1.keeps = true := hkeeps
      simp only [List.map_cons, collect, if_neg hkeeps, if_neg hnotedKeeps]
      rw [hnoted, hlater]
      rfl

/-- Notes do not change a turn. -/
theorem turn_forget (turn : Turn σ) (state : List (Nat × χ) × List (Note χ ω) × σ) :
    let noted := system.noting.turn turn.noted state
    system.turn turn (forget state) = ⟨noted.answer, forget noted.state, noted.events⟩ := by
  obtain ⟨table, notes, inner⟩ := state
  cases turn with
  | start request =>
    cases houtcome : (system.start request inner).1 with
    | ok child =>
      rw [Turn.noted, system.turn_start_ok (forget (table, notes, inner)) houtcome,
        system.noting_turn_ok table notes houtcome]
      simp [forget]
    | error cause =>
      rw [Turn.noted, system.turn_start_error (forget (table, notes, inner)) houtcome,
        system.noting_turn_error table notes houtcome]
      rfl
  | reap =>
    simp only [Turn.noted, system.turn_reap, system.noting.turn_reap]
    rw [forget, collect_forget system table notes inner]
  | meanwhile change => rfl

/-- Notes do not change a run. -/
theorem run_forget (turns : List (Turn σ)) (state : List (Nat × χ) × List (Note χ ω) × σ) :
    let noted := system.noting.run (turns.map Turn.noted) state
    system.run turns (forget state) = ⟨noted.answer, forget noted.state, noted.events⟩ := by
  induction turns generalizing state with
  | nil => rfl
  | cons turn turns ih =>
    have hlater := ih (system.noting.turn turn.noted state).state
    simp only [List.map_cons, System.run_cons, turn_forget system turn state, hlater]

end Forgetting

/-- Every child of a table is polled once, in order, and noted. Those that are
found running stay, and the rest is told of. -/
theorem collect_noting (table : List (Nat × χ)) (notes : List (Note χ ω)) (state : σ) :
    let step := collect system.noting table (notes, state)
    ∃ polls : List ((Nat × χ) × Poll ω), polls.map Prod.fst = table ∧
      step.state.2.1 = notes ++ polls.map Note.ofPoll ∧
      step.state.1 = (polls.filter (·.2.keeps)).map Prod.fst ∧
      step.events = (polls.map Note.ofPoll).filterMap (Note.event? system) := by
  induction table generalizing notes state with
  | nil => exact ⟨[], by simp [collect]⟩
  | cons child table ih =>
    obtain ⟨polls, htable, hnotes, hkept, hevents⟩ :=
      ih (notes ++ [.polled child (system.poll child.2 state).1]) (system.poll child.2 state).2
    refine ⟨(child, (system.poll child.2 state).1) :: polls, ?_, ?_, ?_, ?_⟩
    · rw [List.map_cons, htable]
    · simp only [collect, system.noting_poll, hnotes, List.map_cons, Note.ofPoll,
        List.append_assoc, List.cons_append, List.nil_append]
    · simp only [collect, system.noting_poll, hkept, List.filter_cons,
        apply_ite (List.map Prod.fst), List.map_cons]
    · simp only [collect, system.noting_poll, system.noting_pid, system.noting_text, hevents,
        List.map_cons, List.filterMap_cons, Note.ofPoll, Note.event?]
      cases (system.poll child.2 state).1.event? system.text (system.pid child.2) <;> rfl

/-- What a change of the host does to a machine. -/
def within (change : Host → Host) (machine : Machine) : Machine :=
  { machine with toHost := change machine.toHost }

/-- The launcher of the machine runs as the launcher on its host. -/
theorem processes_run (turns : List (Turn Host)) (state : List Nat × Host) :
    let run := Host.system.run turns state
    Launcher.processes.run within turns (.ofPair state) =
      ⟨run.answer, .ofPair run.state, run.events⟩ := by
  induction turns generalizing state with
  | nil => rfl
  | cons turn turns ih =>
    have hturn : Launcher.processes.turn within turn (.ofPair state) =
        ⟨(Host.system.turn turn state).answer, .ofPair (Host.system.turn turn state).state,
          (Host.system.turn turn state).events⟩ := by
      cases turn <;> rfl
    simp only [Launcher.run, System.run_cons, hturn, ih]

end Machine

end TrayIndicator
