import Mathlib.Data.List.Nodup
import TrayIndicator.Proofs.Machine.Notes

/-!
# The accounts of the children

At any time of any run the table of a launcher of processes holds the children
that were started and that no poll has found ended, and the log tells of each of
them once when it starts and once when it leaves. A start adds one child or
none; a collection polls each child of the table once.

Nothing is said of children that end without being polled, nor of when a
launcher is asked to collect.
-/

namespace TrayIndicator

namespace Machine

variable {σ χ ω : Type} (system : System σ χ ω)

/-- Everything that is noted of a child: its start, the polls that found it
running, and, once it is not pending any more, the one that did not. -/
def Story (child : Nat × χ) (isPending : Prop) (notes : List (Note χ ω)) : Prop :=
  ∃ rounds : Nat,
    (isPending ∧ notes.filter (Note.isAbout child) =
      .started child :: List.replicate rounds (.polled child .running)) ∨
    (¬ isPending ∧ ∃ answer : Poll ω, answer.keeps = false ∧
      notes.filter (Note.isAbout child) =
        .started child :: (List.replicate rounds (.polled child .running) ++
          [.polled child answer]))

/-- What a table and the notes have to do with each other. -/
structure Accounts (table : List (Nat × χ)) (notes : List (Note χ ω)) : Prop where
  /-- Children are numbered by their start. -/
  numbered : (started notes).map Prod.fst = List.range (started notes).length
  /-- Notes are about children that were started. -/
  known : ∀ note ∈ notes, ∀ number, note.number? = some number → number < (started notes).length
  /-- The table holds the pending children. -/
  table_eq : table = pending notes
  /-- The notes about each child are its story. -/
  story : ∀ child ∈ started notes, Story child (child ∈ table) notes

namespace Accounts

variable {table : List (Nat × χ)} {notes : List (Note χ ω)}

/-- The accounts at the beginning. -/
theorem empty : Accounts ([] : List (Nat × χ)) ([] : List (Note χ ω)) :=
  ⟨rfl, by simp, rfl, by simp [started]⟩

/-- A child's number is less than the number of those started. -/
theorem lt_of_mem (h : Accounts table notes) {child : Nat × χ} (hm : child ∈ started notes) :
    child.1 < (started notes).length := by
  have hnumber : child.1 ∈ (started notes).map Prod.fst := List.mem_map_of_mem hm
  rw [h.numbered] at hnumber
  exact List.mem_range.mp hnumber

/-- No two children have the same number. -/
theorem nodup (h : Accounts table notes) : ((started notes).map Prod.fst).Nodup := by
  rw [h.numbered]
  exact List.nodup_range

/-- A child is known by its number. -/
theorem eq_of_number (h : Accounts table notes) {child other : Nat × χ}
    (hchild : child ∈ started notes) (hother : other ∈ started notes)
    (hnumber : child.1 = other.1) : child = other :=
  List.inj_on_of_nodup_map h.nodup hchild hother hnumber

/-- No child is twice in the table. -/
theorem nodup_table (h : Accounts table notes) : (table.map Prod.fst).Nodup := by
  rw [h.table_eq]
  exact (List.filter_sublist.map Prod.fst).nodup h.nodup

/-- The children of the table were started. -/
theorem mem_started (h : Accounts table notes) {child : Nat × χ} (hm : child ∈ table) :
    child ∈ started notes := by
  rw [h.table_eq] at hm
  exact (List.mem_filter.mp hm).1

/-- No note is about the child that is started next. -/
theorem number?_ne (h : Accounts table notes) {note : Note χ ω} (hm : note ∈ notes) :
    note.number? ≠ some (started notes).length :=
  fun hnumber => Nat.lt_irrefl _ (h.known note hm _ hnumber)

theorem started_start (notes : List (Note χ ω)) (child : Nat × χ) :
    started (notes ++ [.started child]) = started notes ++ [child] := by
  simp [started]

/-- A child that is started next is pending, with those that were. -/
theorem pending_start (h : Accounts table notes) (child : χ) :
    pending (notes ++ [.started ((started notes).length, child)]) =
      table ++ [((started notes).length, child)] := by
  have hfresh : notes.any (Note.ends ((started notes).length, child)) = false := by
    rw [List.any_eq_false]
    exact fun note hm hends => h.number?_ne hm (Note.number?_of_ends hends)
  have hsame (other : Nat × χ) :
      (notes ++ [Note.started ((started notes).length, child)]).any (Note.ends other) =
        notes.any (Note.ends other) := by
    simp [Note.ends]
  rw [pending, started_start, List.filter_append]
  simp only [hsame]
  rw [h.table_eq, List.filter_singleton, hfresh]
  rfl

/-- The story of an earlier child does not go on when another is started. -/
theorem story_start (h : Accounts table notes) (child : χ) {other : Nat × χ}
    (hm : other ∈ started notes) :
    Story other (other ∈ table ++ [((started notes).length, child)])
      (notes ++ [.started ((started notes).length, child)]) := by
  have hne : other.1 ≠ (started notes).length := Nat.ne_of_lt (h.lt_of_mem hm)
  have hnotes : (notes ++ [Note.started ((started notes).length, child)]).filter
      (Note.isAbout other) = notes.filter (Note.isAbout other) := by
    simp [Note.isAbout, Note.number?, Ne.symm hne]
  have hpending : other ∈ table ++ [((started notes).length, child)] ↔ other ∈ table := by
    rw [List.mem_append, List.mem_singleton, or_iff_left]
    exact fun heq => hne (congrArg Prod.fst heq)
  rw [Story, hnotes, hpending]
  exact h.story other hm

/-- The story of a child begins with its start. -/
theorem story_started (h : Accounts table notes) (child : χ) :
    Story ((started notes).length, child)
      (((started notes).length, child) ∈ table ++ [((started notes).length, child)])
      (notes ++ [.started ((started notes).length, child)]) := by
  have hnone : notes.filter (Note.isAbout ((started notes).length, child)) = [] := by
    rw [List.filter_eq_nil_iff]
    exact fun note hnote habout => h.number?_ne hnote (beq_iff_eq.mp habout)
  refine ⟨0, .inl ⟨List.mem_append_right _ List.mem_cons_self, ?_⟩⟩
  rw [List.filter_append, hnone]
  simp [Note.isAbout, Note.number?]

/-- The accounts after a start that succeeds. -/
theorem start (h : Accounts table notes) (child : χ) :
    Accounts (table ++ [((started notes).length, child)])
      (notes ++ [.started ((started notes).length, child)]) := by
  refine ⟨?numbered, ?known, (h.pending_start child).symm, ?story⟩
  case numbered =>
    rw [started_start, List.map_append, h.numbered, List.length_append, List.length_singleton,
      List.range_succ]
    rfl
  case known =>
    intro note hm number hnumber
    rw [started_start, List.length_append, List.length_singleton]
    rcases List.mem_append.mp hm with hm | hm
    · exact Nat.lt_succ_of_lt (h.known note hm number hnumber)
    · rw [List.mem_singleton.mp hm, Note.number?, Option.some.injEq] at hnumber
      omega
  case story =>
    intro other hm
    rw [started_start, List.mem_append, List.mem_singleton] at hm
    rcases hm with hm | rfl
    · exact h.story_start child hm
    · exact h.story_started child

/-- The accounts after a start that fails. -/
theorem refuse (h : Accounts table notes) (cause : IoError) :
    Accounts table (notes ++ [.refused cause]) := by
  have hstarted : started (notes ++ [Note.refused cause]) = started notes := by
    simp [started]
  have hpending : pending (notes ++ [Note.refused cause]) = pending notes := by
    simp [pending, hstarted, Note.ends]
  refine ⟨by rw [hstarted]; exact h.numbered, ?known, by rw [hpending]; exact h.table_eq, ?story⟩
  case known =>
    intro note hm number hnumber
    rw [hstarted]
    rcases List.mem_append.mp hm with hm | hm
    · exact h.known note hm number hnumber
    · rw [List.mem_singleton.mp hm] at hnumber
      cases hnumber
  case story =>
    intro child hm
    have hnotes : (notes ++ [Note.refused cause]).filter (Note.isAbout child) =
        notes.filter (Note.isAbout child) := by
      simp [Note.isAbout, Note.number?]
    rw [Story, hnotes]
    exact h.story child (by rwa [hstarted] at hm)

variable {polls : List ((Nat × χ) × Poll ω)}

/-- Polls start no child. -/
theorem started_polls (notes : List (Note χ ω)) (polls : List ((Nat × χ) × Poll ω)) :
    started (notes ++ polls.map Note.ofPoll) = started notes := by
  simp [started, List.filterMap_map, Function.comp_def, Note.ofPoll]

/-- Polls of the table are known by the number of the child. -/
theorem poll_eq_of_number (h : Accounts table notes) (hpolls : polls.map Prod.fst = table)
    {poll other : (Nat × χ) × Poll ω} (hpoll : poll ∈ polls) (hother : other ∈ polls)
    (hnumber : poll.1.1 = other.1.1) : poll = other := by
  have hnodup : (polls.map fun poll => poll.1.1).Nodup := by
    have hmap : (polls.map fun poll => poll.1.1) = table.map Prod.fst := by
      rw [← hpolls, List.map_map]
      rfl
    rw [hmap]
    exact h.nodup_table
  exact List.inj_on_of_nodup_map hnodup hpoll hother hnumber

/-- After polls those children are pending that were and were found running. -/
theorem pending_polls (h : Accounts table notes) (hpolls : polls.map Prod.fst = table) :
    pending (notes ++ polls.map Note.ofPoll) = (polls.filter (·.2.keeps)).map Prod.fst := by
  have hsplit : pending (notes ++ polls.map Note.ofPoll) =
      table.filter fun child => !(polls.map Note.ofPoll).any (Note.ends child) := by
    rw [pending, started_polls, h.table_eq, pending, List.filter_filter]
    refine List.filter_congr fun child _ => ?_
    rw [List.any_append, Bool.not_or, Bool.and_comm]
  rw [hsplit, ← hpolls, List.filter_map]
  congr 1
  refine List.filter_congr fun poll hpoll => ?_
  rw [Function.comp_apply, Bool.eq_iff_iff, Bool.not_eq_true', List.any_eq_false]
  constructor
  · intro hnever
    have hown := hnever (Note.ofPoll poll) (List.mem_map_of_mem hpoll)
    simpa [Note.ofPoll, Note.ends] using hown
  · intro hkeeps note hnote hends
    obtain ⟨other, hother, rfl⟩ := List.mem_map.mp hnote
    simp only [Note.ofPoll, Note.ends, Bool.and_eq_true, beq_iff_eq, Bool.not_eq_true'] at hends
    rw [h.poll_eq_of_number hpolls hother hpoll hends.1, hkeeps] at hends
    exact absurd hends.2 (by simp)

/-- Polls of the table are about a child of it once. -/
theorem filter_polls_of_mem (h : Accounts table notes) (hpolls : polls.map Prod.fst = table)
    {poll : (Nat × χ) × Poll ω} (hpoll : poll ∈ polls) :
    (polls.map Note.ofPoll).filter (Note.isAbout poll.1) = [Note.ofPoll poll] := by
  have hnodup : polls.Nodup := by
    refine List.Nodup.of_map Prod.fst ?_
    rw [hpolls]
    exact List.Nodup.of_map Prod.fst h.nodup_table
  obtain ⟨before, after, rfl⟩ := List.append_of_mem hpoll
  rw [List.nodup_append, List.nodup_cons] at hnodup
  have hother (other) (hm : other ∈ before ++ poll :: after) (hne : other ≠ poll) :
      ¬ Note.isAbout poll.1 (Note.ofPoll other) = true := fun habout =>
    hne (h.poll_eq_of_number hpolls hm hpoll (Option.some.inj (beq_iff_eq.mp habout)))
  have hbefore : (before.map Note.ofPoll).filter (Note.isAbout poll.1) = [] := by
    rw [List.filter_eq_nil_iff, List.forall_mem_map]
    exact fun other hm => hother other (List.mem_append_left _ hm)
      fun heq => hnodup.2.2 other hm poll List.mem_cons_self heq
  have hafter : (after.map Note.ofPoll).filter (Note.isAbout poll.1) = [] := by
    rw [List.filter_eq_nil_iff, List.forall_mem_map]
    exact fun other hm => hother other (List.mem_append_right _ (List.mem_cons_of_mem _ hm))
      fun heq => hnodup.2.1.1 (heq ▸ hm)
  rw [List.map_append, List.map_cons, List.filter_append, List.filter_cons, hbefore, hafter]
  simp [Note.isAbout, Note.ofPoll, Note.number?]

/-- Polls of the table are not about a child that is not in it. -/
theorem filter_polls_of_not_mem (h : Accounts table notes) (hpolls : polls.map Prod.fst = table)
    {child : Nat × χ} (hstarted : child ∈ started notes) (hm : child ∉ table) :
    (polls.map Note.ofPoll).filter (Note.isAbout child) = [] := by
  rw [List.filter_eq_nil_iff, List.forall_mem_map]
  intro poll hpoll habout
  have hmem : poll.1 ∈ table := hpolls ▸ List.mem_map_of_mem hpoll
  have hnumber : poll.1.1 = child.1 := Option.some.inj (beq_iff_eq.mp habout)
  exact hm (h.eq_of_number (h.mem_started hmem) hstarted hnumber ▸ hmem)

/-- The story of a child of the table goes on with the poll of it. -/
theorem story_polled (h : Accounts table notes) (hpolls : polls.map Prod.fst = table)
    {poll : (Nat × χ) × Poll ω} (hpoll : poll ∈ polls) :
    Story poll.1 (poll.1 ∈ (polls.filter (·.2.keeps)).map Prod.fst)
      (notes ++ polls.map Note.ofPoll) := by
  have hm : poll.1 ∈ table := hpolls ▸ List.mem_map_of_mem hpoll
  obtain ⟨rounds, ⟨_, hnotes⟩ | ⟨hout, _⟩⟩ := h.story poll.1 (h.mem_started hm)
  · rw [Story, List.filter_append, hnotes, h.filter_polls_of_mem hpolls hpoll]
    obtain ⟨child, answer⟩ := poll
    cases answer with
    | running =>
      refine ⟨rounds + 1, .inl ⟨?_, ?_⟩⟩
      · exact List.mem_map_of_mem (List.mem_filter.mpr ⟨hpoll, rfl⟩)
      · rw [List.replicate_succ', List.cons_append]
        rfl
    | exited _ | failed _ =>
      -- no other poll is about the child, so none keeps it
      refine ⟨rounds, .inr ⟨fun hkept => ?_, _, rfl, rfl⟩⟩
      obtain ⟨other, hother, hsame⟩ := List.mem_map.mp hkept
      obtain ⟨hother, hkeeps⟩ := List.mem_filter.mp hother
      rw [h.poll_eq_of_number hpolls hother hpoll (congrArg Prod.fst hsame)] at hkeeps
      cases hkeeps
  · exact absurd hm hout

/-- The story of a child that has left the table is over. -/
theorem story_left (h : Accounts table notes) (hpolls : polls.map Prod.fst = table)
    {child : Nat × χ} (hstarted : child ∈ started notes) (hm : child ∉ table) :
    Story child (child ∈ (polls.filter (·.2.keeps)).map Prod.fst)
      (notes ++ polls.map Note.ofPoll) := by
  obtain ⟨rounds, ⟨hin, _⟩ | ⟨_, answer, hends, hnotes⟩⟩ := h.story child hstarted
  · exact absurd hin hm
  · rw [Story, List.filter_append, hnotes, h.filter_polls_of_not_mem hpolls hstarted hm,
      List.append_nil]
    refine ⟨rounds, .inr ⟨fun hkept => hm ?_, answer, hends, rfl⟩⟩
    obtain ⟨poll, hpoll, rfl⟩ := List.mem_map.mp hkept
    exact hpolls ▸ List.mem_map_of_mem (List.mem_filter.mp hpoll).1

/-- The accounts after every child of the table was polled. -/
theorem reap (h : Accounts table notes) (hpolls : polls.map Prod.fst = table) :
    Accounts ((polls.filter (·.2.keeps)).map Prod.fst) (notes ++ polls.map Note.ofPoll) := by
  refine ⟨?numbered, ?known, (h.pending_polls hpolls).symm, ?story⟩
  case numbered =>
    rw [started_polls]
    exact h.numbered
  case known =>
    intro note hm number hnumber
    rw [started_polls]
    rcases List.mem_append.mp hm with hm | hm
    · exact h.known note hm number hnumber
    · obtain ⟨poll, hpoll, rfl⟩ := List.mem_map.mp hm
      rw [Note.ofPoll, Note.number?, Option.some.injEq] at hnumber
      exact hnumber ▸ h.lt_of_mem (h.mem_started (hpolls ▸ List.mem_map_of_mem hpoll))
  case story =>
    intro child hstarted
    rw [started_polls] at hstarted
    by_cases hm : child ∈ polls.map Prod.fst
    · obtain ⟨poll, hpoll, rfl⟩ := List.mem_map.mp hm
      exact h.story_polled hpolls hpoll
    · rw [hpolls] at hm
      exact h.story_left hpolls hstarted hm

/-- What is told of a child: its start, and, once it has left the table, what the
last poll of it answered. -/
theorem told_of (h : Accounts table notes) {child : Nat × χ} (hm : child ∈ started notes) :
    let own := (notes.filter (Note.isAbout child)).filterMap (Note.event? system)
    (child ∈ table → own = [startedEvent (system.pid child.2)]) ∧
      (child ∉ table → ∃ (answer : Poll ω) (event : LogEvent),
        answer.event? system.text (system.pid child.2) = some event ∧
          own = [startedEvent (system.pid child.2), event]) := by
  have hrunning (rounds : Nat) :
      (List.replicate rounds (Note.polled child Poll.running)).filterMap (Note.event? system) =
        [] := by
    rw [List.filterMap_eq_nil_iff]
    intro note hnote
    rw [List.eq_of_mem_replicate hnote]
    rfl
  obtain ⟨rounds, ⟨hin, hnotes⟩ | ⟨hout, answer, hends, hnotes⟩⟩ := h.story child hm
  · refine ⟨fun _ => ?_, fun hout => absurd hin hout⟩
    rw [hnotes, List.filterMap_cons, hrunning]
    rfl
  · refine ⟨fun hin => absurd hin hout, fun _ => ?_⟩
    obtain ⟨event, hevent⟩ :
        ∃ event, answer.event? system.text (system.pid child.2) = some event := by
      rw [← Option.isSome_iff_exists, ← Option.ne_none_iff_isSome, Ne,
        ← Poll.keeps_iff, hends]
      exact Bool.false_ne_true
    refine ⟨answer, event, hevent, ?_⟩
    rw [hnotes, List.filterMap_cons, List.filterMap_append, hrunning]
    simp only [Note.event?, hevent, List.filterMap_cons, List.filterMap_nil, List.nil_append]

end Accounts

section Runs

variable {table : List (Nat × χ)} {notes : List (Note χ ω)}

/-- A turn keeps the accounts. It only adds notes, and tells of those it adds. -/
theorem Accounts.turn (h : Accounts table notes) (turn : Turn σ) (inner : σ) :
    let step := system.noting.turn turn.noted (table, notes, inner)
    Accounts step.state.1 step.state.2.1 ∧
      ∃ added, step.state.2.1 = notes ++ added ∧
        step.events = added.filterMap (Note.event? system) := by
  cases turn with
  | start request =>
    cases houtcome : (system.start request inner).1 with
    | ok child =>
      rw [Turn.noted, system.noting_turn_ok table notes houtcome]
      exact ⟨h.start child, _, rfl, rfl⟩
    | error cause =>
      rw [Turn.noted, system.noting_turn_error table notes houtcome]
      exact ⟨h.refuse cause, _, rfl, rfl⟩
  | reap =>
    obtain ⟨polls, hpolls, hnotes, hkept, hevents⟩ := collect_noting system table notes inner
    simp only [Turn.noted, system.noting.turn_reap, hnotes, hkept, hevents]
    exact ⟨h.reap hpolls, _, rfl, rfl⟩
  | meanwhile change => exact ⟨h, [], (List.append_nil notes).symm, rfl⟩

/-- A run keeps the accounts. It only adds notes, and tells of those it adds. -/
theorem Accounts.run (h : Accounts table notes) (turns : List (Turn σ)) (inner : σ) :
    let run := system.noting.run (turns.map Turn.noted) (table, notes, inner)
    Accounts run.state.1 run.state.2.1 ∧
      ∃ added, run.state.2.1 = notes ++ added ∧
        run.events = added.filterMap (Note.event? system) := by
  induction turns generalizing table notes inner with
  | nil => exact ⟨h, [], (List.append_nil notes).symm, rfl⟩
  | cons turn turns ih =>
    obtain ⟨hstep, added, hadded, hevents⟩ := h.turn system turn inner
    obtain ⟨hrun, more, hmore, hlater⟩ :=
      ih hstep (system.noting.turn turn.noted (table, notes, inner)).state.2.2
    rw [List.map_cons, System.run_cons]
    refine ⟨hrun, added ++ more, ?_, ?_⟩
    · rw [← List.append_assoc, ← hadded]
      exact hmore
    · rw [List.filterMap_append, ← hevents, ← hlater]

end Runs

section Counts

/-- How often a log says something. -/
def told (message : String) (events : List LogEvent) : Nat :=
  events.countP (·.message == message)

theorem told_nil (message : String) : told message [] = 0 := rfl

theorem told_singleton (message : String) (event : LogEvent) :
    told message [event] = if event.message == message then 1 else 0 :=
  List.countP_singleton

theorem told_append (message : String) (before after : List LogEvent) :
    told message (before ++ after) = told message before + told message after :=
  List.countP_append

/-- What a collection tells is told of children that leave the table. -/
theorem told_collect (table : List χ) (inner : σ) :
    let step := collect system table inner
    told "Started child process" step.events = 0 ∧
      step.state.1.length + told "Child process exited" step.events +
        told "Failed to poll child process" step.events = table.length := by
  induction table generalizing inner with
  | nil => exact ⟨rfl, rfl⟩
  | cons child table ih =>
    obtain ⟨hstarted, hcount⟩ := ih (system.poll child inner).2
    simp only [collect, told_append, hstarted, List.length_cons]
    cases (system.poll child inner).1 with
    | running =>
      refine ⟨rfl, ?_⟩
      simp only [Poll.event?, Poll.keeps, Option.toList_none, told_nil, if_true,
        List.length_cons]
      omega
    | exited status =>
      refine ⟨rfl, ?_⟩
      simp [Poll.event?, Poll.keeps, told_singleton, exitedEvent]
      omega
    | failed cause =>
      refine ⟨rfl, ?_⟩
      simp [Poll.event?, Poll.keeps, told_singleton, pollFailedEvent]
      omega

/-- The table and the children told to have started are the table that remains
and the children told to have left. -/
theorem told_run (turns : List (Turn σ)) (state : List χ × σ) :
    let run := system.run turns state
    state.1.length + told "Started child process" run.events =
      run.state.1.length + told "Child process exited" run.events +
        told "Failed to poll child process" run.events := by
  induction turns generalizing state with
  | nil => rfl
  | cons turn turns ih =>
    have hlater := ih (system.turn turn state).state
    simp only [System.run_cons, told_append] at hlater ⊢
    have hstep : state.1.length + told "Started child process" (system.turn turn state).events =
        (system.turn turn state).state.1.length +
          told "Child process exited" (system.turn turn state).events +
          told "Failed to poll child process" (system.turn turn state).events := by
      cases turn with
      | start request =>
        cases houtcome : (system.start request state.2).1 with
        | ok child =>
          rw [system.turn_start_ok state houtcome]
          simp [told_singleton, startedEvent]
        | error cause =>
          rw [system.turn_start_error state houtcome]
          simp [told_nil]
      | reap =>
        obtain ⟨hstarted, hcount⟩ := told_collect system state.1 state.2
        simp only [system.turn_reap]
        omega
      | meanwhile change => rfl
    omega

end Counts

/-- No child is lost, held twice or told of twice, whatever the system answers and
whatever goes on in it. After any turns the table holds the children that were
started and that no poll has found ended, in the order of their start; each
child is told of once when it starts and once when it leaves the table, so that
the log counts as many starts as there are children in the table and reports of
children that left it. A start that fails answers its cause and changes nothing,
and a collection polls each child of the table once and keeps those that run.
The launcher of the machine is the one on its host. -/
theorem children_accounted_for (turns : List (Turn σ)) (inner : σ) :
    let noted := system.notedRun turns inner
    let table := noted.state.1
    let notes := noted.state.2.1
    let final := forget noted.state
    system.run turns ([], inner) = ⟨noted.answer, final, noted.events⟩ ∧
      Accounts table notes ∧
      (table.map Prod.fst).Nodup ∧
      noted.events = notes.filterMap (Note.event? system) ∧
      (∀ child ∈ started notes,
        let own := (notes.filter (Note.isAbout child)).filterMap (Note.event? system)
        (child ∈ table → own = [startedEvent (system.pid child.2)]) ∧
          (child ∉ table → ∃ (answer : Poll ω) (event : LogEvent),
            answer.event? system.text (system.pid child.2) = some event ∧
              own = [startedEvent (system.pid child.2), event])) ∧
      told "Started child process" noted.events =
        table.length + told "Child process exited" noted.events +
          told "Failed to poll child process" noted.events ∧
      (∀ request,
        let outcome := system.start request final.2
        system.turn (.start request) final =
          match outcome.1 with
          | .ok child =>
            ⟨some (.ok ()), (final.1 ++ [child], outcome.2), [startedEvent (system.pid child)]⟩
          | .error cause => ⟨some (.error cause), (final.1, outcome.2), []⟩) ∧
      (∃ polls : List ((Nat × χ) × Poll ω),
        let step := system.noting.turn .reap noted.state
        polls.map Prod.fst = table ∧
          step.state.2.1 = notes ++ polls.map Note.ofPoll ∧
          step.state.1 = (polls.filter (·.2.keeps)).map Prod.fst) ∧
      ∀ (turns : List (Turn Host)) (host : Host),
        let run := Host.system.run turns ([], host)
        Launcher.processes.run within turns (.ofPair ([], host)) =
          ⟨run.answer, .ofPair run.state, run.events⟩ := by
  intro noted table notes final
  obtain ⟨haccounts, added, hadded, hevents⟩ := Accounts.empty.run system turns inner
  have hforget : system.run turns ([], inner) = ⟨noted.answer, final, noted.events⟩ :=
    run_forget system turns ([], [], inner)
  have hcount := told_run system turns ([], inner)
  obtain ⟨polls, hpolls, hnotes, hkept, _⟩ := collect_noting system table notes noted.state.2.2
  refine ⟨hforget, haccounts, haccounts.nodup_table, ?_, ?_, ?_, ?_,
    ⟨polls, hpolls, hnotes, hkept⟩, fun turns host => processes_run turns ([], host)⟩
  · rw [List.nil_append] at hadded
    rw [show notes = added from hadded]
    exact hevents
  · exact fun child hm => haccounts.told_of system hm
  · have hlength : final.1.length = table.length := List.length_map Prod.snd
    simp only [hforget, List.length_nil, hlength] at hcount
    omega
  · intro request outcome
    cases houtcome : outcome.1 with
    | ok child => exact system.turn_start_ok final houtcome
    | error cause => exact system.turn_start_error final houtcome

end Machine

end TrayIndicator
