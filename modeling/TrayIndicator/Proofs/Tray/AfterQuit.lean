import TrayIndicator.Proofs.Tray.MainLoop

/-!
# After the quit entry

Two threads take turns: the service hands on what the shell reports, and the main
thread waits for a token, leaves its loop and ends the process. The choice of the quit
entry only sends a token. What the service hands on between that and the end of the
process is answered as before, so a click in this time still starts the companion.
Nothing else starts anything, and after the end nothing happens at all.

How long the main thread takes for its turns is not described.
-/

namespace TrayIndicator.Tray

/-- What one of the two threads does next. -/
inductive Turn where
  /-- The service hands on an event, or a wait of the main loop ends. -/
  | tray (event : TrayEvent)
  /-- The main thread ends the process, if its loop has left. -/
  | exit

namespace Turn

/-- Is the quit entry activated? -/
def quits : Turn → Bool
  | .tray event => event.quits
  | .exit => false

/-- Does a wait of the main loop end? -/
def isWait : Turn → Bool
  | .tray event => event.isWait
  | .exit => false

/-- Does the main thread end the process? -/
def isExit : Turn → Bool
  | .tray _ => false
  | .exit => true

/-- Is it a primary click on the icon? -/
def isClick : Turn → Bool
  | .tray (.activate _ _) => true
  | _ => false

/-- Is the entry activated that opens the log? -/
def opensLog : Turn → Bool
  | .tray event => event.label? = some "Open log file"
  | .exit => false

/-- What a turn has the launcher start, if anything. -/
def request? {σ : Type} (indicator : Indicator σ) : Turn → Option Request
  | .tray event => event.request? indicator
  | .exit => none

/-- Primary clicks and the entry that opens the log start something, and nothing else
does. -/
theorem request?_eq_none_iff {σ : Type} (indicator : Indicator σ) (turn : Turn) :
    turn.request? indicator = none ↔ turn.isClick = false ∧ turn.opensLog = false := by
  cases turn with
  | exit => exact iff_of_true rfl ⟨rfl, rfl⟩
  | tray event =>
    cases event with
    | activate x y => simp [request?, TrayEvent.request?, isClick]
    | entry place =>
      by_cases hlabel : (TrayEvent.entry place).label? = some "Open log file" <;>
        simp [request?, TrayEvent.request?, isClick, opensLog, hlabel]
    | secondaryActivate x y | wait | filesChange files =>
      exact iff_of_true rfl ⟨rfl, rfl⟩

/-- Only the end of a wait is one. -/
theorem isWait_eq_false {turn : Turn} (h : turn ≠ .tray .wait) : turn.isWait = false := by
  cases turn with
  | exit => rfl
  | tray event =>
    cases event with
    | wait => exact absurd rfl h
    | activate x y | secondaryActivate x y | entry place | filesChange files => rfl

end Turn

/-- The turns that are left to a process once the quit entry was chosen: those up to the
end of a wait, which finds the token, and from there those before the exit. -/
def beforeEnd : List Turn → List Turn
  | [] => []
  | turn :: turns =>
    if turn.isWait then turn :: turns.takeWhile (!·.isExit) else turn :: beforeEnd turns

section WaitAndExit

variable {turns : List Turn}

/-- After a wait the exit may come at any time. -/
theorem exists_wait_exit_cons_wait :
    (∃ early later, .tray .wait :: turns = early ++ .tray .wait :: later ∧ .exit ∈ later) ↔
      .exit ∈ turns := by
  refine ⟨?_, fun hexit => ⟨[], turns, rfl, hexit⟩⟩
  rintro ⟨early, later, hturns, hexit⟩
  cases early with
  | nil =>
    cases hturns
    exact hexit
  | cons first early =>
    cases hturns
    exact List.mem_append_right _ (List.mem_cons_of_mem _ hexit)

/-- Before the wait nothing counts as an exit. -/
theorem exists_wait_exit_cons {turn : Turn} (hwait : turn ≠ .tray .wait) :
    (∃ early later, turn :: turns = early ++ .tray .wait :: later ∧ .exit ∈ later) ↔
      ∃ early later, turns = early ++ .tray .wait :: later ∧ .exit ∈ later := by
  constructor
  · rintro ⟨early, later, hturns, hexit⟩
    cases early with
    | nil =>
      cases hturns
      exact absurd rfl hwait
    | cons first early =>
      cases hturns
      exact ⟨early, later, rfl, hexit⟩
  · rintro ⟨early, later, rfl, hexit⟩
    exact ⟨turn :: early, later, rfl, hexit⟩

end WaitAndExit

/-- A process with a published item. -/
structure Process (σ : Type) where
  /-- The item with its main loop. -/
  tray : LiveTray σ
  /-- Has the process ended? -/
  ended : Bool

namespace Process

variable {σ : Type}

/-- A process that publishes the item of an indicator. -/
def publish (world : World) (indicator : Indicator σ) (launcher : σ) : Process σ :=
  ⟨(LiveTray.publish world indicator launcher).state, false⟩

/-- The process after a turn. The main thread ends it once its loop has left; nothing
happens after that. -/
def take (process : Process σ) (turn : Turn) : Process σ :=
  if process.ended then process
  else
    match turn with
    | .tray event => { process with tray := (process.tray.step event).state }
    | .exit => { process with ended := process.tray.result.isSome }

/-- The process after turns taken one after the other. -/
def takeAll (process : Process σ) (turns : List Turn) : Process σ := turns.foldl take process

/-- What a process that takes notes has asked to start so far. -/
def requests (process : Process (List Call × σ)) : List Request :=
  requestsOf process.tray.state.launcher.1

theorem takeAll_nil (process : Process σ) : process.takeAll [] = process := rfl

theorem takeAll_cons (process : Process σ) (turn : Turn) (turns : List Turn) :
    process.takeAll (turn :: turns) = (process.take turn).takeAll turns := rfl

theorem takeAll_append (process : Process σ) (turns later : List Turn) :
    process.takeAll (turns ++ later) = (process.takeAll turns).takeAll later :=
  List.foldl_append

/-- Nothing happens after the end. -/
theorem takeAll_of_ended {process : Process σ} (h : process.ended = true) (turns : List Turn) :
    process.takeAll turns = process := by
  induction turns with
  | nil => rfl
  | cons turn turns ih =>
    have hstays : process.take turn = process := by simp [take, h]
    rw [takeAll_cons, hstays, ih]

theorem take_tray {process : Process σ} (h : process.ended = false) (event : TrayEvent) :
    process.take (.tray event) = { process with tray := (process.tray.step event).state } := by
  simp [take, h]

theorem take_exit {process : Process σ} (h : process.ended = false) :
    process.take .exit = { process with ended := process.tray.result.isSome } := by
  simp [take, h]

/-- No turn replaces the item. -/
theorem take_item (process : Process σ) (turn : Turn) :
    (process.take turn).tray.item = process.tray.item := by
  cases hended : process.ended with
  | true => simp [take, hended]
  | false =>
    cases turn with
    | tray event => rw [take_tray hended, LiveTray.step_item]
    | exit => rw [take_exit hended]

/-- The item is that of the start for good. -/
theorem takeAll_item (process : Process σ) (turns : List Turn) :
    (process.takeAll turns).tray.item = process.tray.item := by
  induction turns generalizing process with
  | nil => rfl
  | cons turn turns ih => rw [takeAll_cons, ih, take_item]

section Quiet

/-- Is the main loop waiting, in a process that goes on? -/
structure Waits (process : Process σ) : Prop where
  /-- The process goes on. -/
  running : process.ended = false
  /-- The loop is there to take tokens. -/
  attended : process.tray.Attended

/-- Unless a wait finds a token the main loop waits on. -/
theorem Waits.take {process : Process σ} (h : process.Waits) (turn : Turn)
    (hvain : turn.isWait = true → process.tray.state.tokens = 0) :
    (process.take turn).Waits ∧ (process.take turn).tray.state.tokens =
      process.tray.state.tokens + if turn.quits then 1 else 0 := by
  cases turn with
  | exit =>
    rw [take_exit h.running]
    exact ⟨⟨by rw [h.attended.loop]; rfl, h.attended⟩, rfl⟩
  | tray event =>
    obtain ⟨hattended, htokens⟩ := h.attended.step fun hwait : event = .wait =>
      hvain (by rw [hwait]; rfl)
    rw [take_tray h.running]
    exact ⟨⟨h.running, hattended⟩, htokens⟩

/-- As long as the quit entry is not chosen the main loop waits, without a token. -/
theorem Waits.takeAll {process : Process σ} (h : process.Waits)
    (hnone : process.tray.state.tokens = 0) {turns : List Turn}
    (hquiet : turns.any Turn.quits = false) :
    (process.takeAll turns).Waits ∧ (process.takeAll turns).tray.state.tokens = 0 := by
  induction turns generalizing process with
  | nil => exact ⟨h, hnone⟩
  | cons turn turns ih =>
    rw [List.any_cons, Bool.or_eq_false_iff] at hquiet
    obtain ⟨hnext, htokens⟩ := h.take turn fun _ => hnone
    rw [hnone, hquiet.1] at htokens
    exact ih hnext htokens hquiet.2

end Quiet

section Requests

variable (indicator : Indicator σ)

/-- The requests of turns are that of the first and those of the rest. -/
theorem filterMap_request?_cons (turn : Turn) (turns : List Turn) :
    (turn :: turns).filterMap (Turn.request? indicator) =
      (turn.request? indicator).toList ++ turns.filterMap (Turn.request? indicator) := by
  rw [List.filterMap_cons]
  cases turn.request? indicator <;> rfl

/-- What a running process starts at a turn is the request of the turn. -/
theorem take_requests {process : Process (List Call × σ)} (hrunning : process.ended = false)
    (hindicator : process.tray.item.indicator = indicator.noting) (turn : Turn) :
    (process.take turn).requests = process.requests ++ (turn.request? indicator).toList := by
  cases turn with
  | exit =>
    rw [take_exit hrunning]
    exact (List.append_nil _).symm
  | tray event =>
    rw [take_tray hrunning]
    refine (LiveTray.run_requests indicator [event] hindicator).trans ?_
    cases hrequest : event.request? indicator with
    | none => simp [requests, Turn.request?, hrequest]
    | some request => simp [requests, Turn.request?, hrequest]

/-- Once the main loop has left, turns are taken as before up to the exit. -/
theorem takeAll_of_left {process : Process (List Call × σ)} (hrunning : process.ended = false)
    {result : Except TrayError Unit} (hleft : process.tray.result = some result)
    (hindicator : process.tray.item.indicator = indicator.noting) (turns : List Turn) :
    (process.takeAll turns).requests = process.requests ++
        (turns.takeWhile (!·.isExit)).filterMap (Turn.request? indicator) ∧
      ((process.takeAll turns).ended = true ↔ .exit ∈ turns) := by
  induction turns generalizing process with
  | nil => simp [takeAll, hrunning]
  | cons turn turns ih =>
    cases turn with
    | exit =>
      have hended : (process.take .exit).ended = true := by
        rw [take_exit hrunning, hleft]
        rfl
      rw [takeAll_cons, takeAll_of_ended hended,
        take_requests indicator hrunning hindicator]
      simp [hended, Turn.isExit, Turn.request?]
    | tray event =>
      have hnext : (process.take (.tray event)).ended = false := by
        rw [take_tray hrunning]
        exact hrunning
      have hstill : (process.take (.tray event)).tray.result = some result := by
        rw [take_tray hrunning]
        exact LiveTray.run_result_of_left [event] hleft
      obtain ⟨hlater, hends⟩ := ih hnext hstill (by rw [take_item, hindicator])
      have hkept : (Turn.tray event :: turns).takeWhile (!·.isExit) =
          .tray event :: turns.takeWhile (!·.isExit) := List.takeWhile_cons_of_pos rfl
      rw [takeAll_cons, hlater, hends, take_requests indicator hrunning hindicator, hkept,
        filterMap_request?_cons, List.append_assoc]
      exact ⟨rfl, by simp⟩

/-- The wait that finds a token is the last one. -/
theorem Waits.take_wait {process : Process σ} (h : process.Waits)
    (htoken : 0 < process.tray.state.tokens) :
    (process.take (.tray .wait)).ended = false ∧
      (process.take (.tray .wait)).tray.result = some (.ok ()) := by
  rw [take_tray h.running, LiveTray.step_wait_of_token h.attended.loop htoken]
  exact ⟨h.running, rfl⟩

/-- With a token to find, turns are taken as before until the main loop has left and the
main thread ends the process. -/
theorem Waits.takeAll_of_token {process : Process (List Call × σ)} (h : process.Waits)
    (htoken : 0 < process.tray.state.tokens)
    (hindicator : process.tray.item.indicator = indicator.noting) (turns : List Turn) :
    (process.takeAll turns).requests =
        process.requests ++ (beforeEnd turns).filterMap (Turn.request? indicator) ∧
      ((process.takeAll turns).ended = true ↔
        ∃ early later, turns = early ++ .tray .wait :: later ∧ .exit ∈ later) := by
  induction turns generalizing process with
  | nil => simp [takeAll_nil, h.running, beforeEnd]
  | cons turn turns ih =>
    have hrequests := take_requests indicator h.running hindicator turn
    have hitem : (process.take turn).tray.item.indicator = indicator.noting := by
      rw [take_item, hindicator]
    by_cases hwait : turn = .tray .wait
    · -- the wait finds the token, and the loop leaves
      subst hwait
      obtain ⟨hrunning, hleft⟩ := h.take_wait htoken
      obtain ⟨hlater, hends⟩ := takeAll_of_left indicator hrunning hleft hitem turns
      have hcut : beforeEnd (.tray .wait :: turns) =
          .tray .wait :: turns.takeWhile (!·.isExit) := rfl
      rw [takeAll_cons, hcut, hlater, hrequests, hends, filterMap_request?_cons,
        List.append_assoc, exists_wait_exit_cons_wait]
      exact ⟨rfl, Iff.rfl⟩
    · have hvain := Turn.isWait_eq_false hwait
      obtain ⟨hnext, htokens⟩ := h.take turn fun hwaits => by simp [hvain] at hwaits
      obtain ⟨hlater, hends⟩ := ih hnext (by omega) hitem
      have hcut : beforeEnd (turn :: turns) = turn :: beforeEnd turns := by
        simp [beforeEnd, hvain]
      rw [takeAll_cons, hcut, hlater, hrequests, hends, filterMap_request?_cons,
        List.append_assoc, exists_wait_exit_cons hwait]
      exact ⟨rfl, Iff.rfl⟩

end Requests

end Process

/-- What is started after the quit entry was chosen. It is what the turns until the end
of the process ask for, in order, and the process ends when the main thread has taken the
token and exits. So nothing is started exactly if in this time there is no primary click
and the entry that opens the log is not activated. -/
theorem started_after_quit {σ : Type} (world : World) (indicator : Indicator σ) (launcher : σ)
    {before : List Turn} (hfirst : before.any Turn.quits = false) {choice : Turn}
    (hquit : choice.quits = true) (after : List Turn) :
    let quitting := (Process.publish world indicator.noting ([], launcher)).takeAll
      (before ++ [choice])
    let later := quitting.takeAll after
    later.requests = quitting.requests ++
        (beforeEnd after).filterMap (Turn.request? indicator) ∧
      (later.requests = quitting.requests ↔
        ∀ turn ∈ beforeEnd after, turn.isClick = false ∧ turn.opensLog = false) ∧
      (later.ended = true ↔
        ∃ early late, after = early ++ .tray .wait :: late ∧ .exit ∈ late) := by
  intro quitting later
  have hstart : (Process.publish world indicator.noting ([], launcher)).Waits := ⟨rfl, rfl, rfl⟩
  obtain ⟨hwaits, hnone⟩ := hstart.takeAll rfl hfirst
  obtain ⟨hchosen, htokens⟩ := hwaits.take choice fun _ => hnone
  rw [hnone, hquit] at htokens
  have hquitting : quitting = ((Process.publish world indicator.noting ([], launcher)).takeAll
      before).take choice := Process.takeAll_append _ before [choice]
  rw [← hquitting] at hchosen htokens
  have htoken : 0 < quitting.tray.state.tokens := by
    rw [htokens]
    exact Nat.one_pos
  have hitem : quitting.tray.item.indicator = indicator.noting := by
    rw [Process.takeAll_item]
    rfl
  obtain ⟨hrequests, hends⟩ := hchosen.takeAll_of_token indicator htoken hitem after
  refine ⟨hrequests, ?_, hends⟩
  rw [hrequests, List.append_right_eq_self, List.filterMap_eq_nil_iff]
  exact forall₂_congr fun turn _ => turn.request?_eq_none_iff indicator

/-- A click before the choice starts the companion. The middle click after it does not,
nor does the click that comes when the process has ended. -/
theorem started_after_quit_in_time :
    let world : World := ⟨[], Path.ofText "/", ⟨[]⟩, none, fun _ => none⟩
    let indicator : Indicator Recording := ⟨.default, none, Launcher.scripted⟩
    let before : List Turn := [.tray (.activate 0 0), .tray .wait]
    let choice : Turn := .tray (.entry 1)
    let after : List Turn :=
      [.tray (.secondaryActivate 1 1), .tray .wait, .exit, .tray (.activate 5 5)]
    let quitting := (Process.publish world indicator.noting ([], ⟨[], []⟩)).takeAll
      (before ++ [choice])
    before.any Turn.quits = false ∧ choice.quits = true ∧
      quitting.requests = [.spawn "syncrop-gui"] ∧
      (quitting.takeAll after).requests = quitting.requests ∧
      (quitting.takeAll after).ended = true := by
  intro world indicator before choice after quitting
  have hfirst : before.any Turn.quits = false := rfl
  have hquit : choice.quits = true := rfl
  obtain ⟨-, hnothing, hends⟩ :=
    started_after_quit world indicator (⟨[], []⟩ : Recording) hfirst hquit after
  refine ⟨hfirst, hquit, rfl, hnothing.mpr ?_, hends.mpr ?_⟩
  · simp [after, beforeEnd, Turn.isWait, TrayEvent.isWait, Turn.isExit, Turn.isClick,
      Turn.opensLog, TrayEvent.label?]
  · exact ⟨[.tray (.secondaryActivate 1 1)], [.exit, .tray (.activate 5 5)], rfl, .head _⟩

/-- A click that the service hands on after the choice of the quit entry starts the
companion, since the main thread has not ended the process yet. -/
theorem companion_started_after_quit :
    let world : World := ⟨[], Path.ofText "/", ⟨[]⟩, none, fun _ => none⟩
    let indicator : Indicator Recording := ⟨.default, none, Launcher.scripted⟩
    let quitting := (Process.publish world indicator.noting ([], ⟨[], []⟩)).takeAll
      [.tray (.entry 1)]
    let later := quitting.takeAll [.tray (.activate 3 4), .tray .wait, .exit]
    quitting.requests = [] ∧ later.requests = [.spawn "syncrop-gui"] ∧ later.ended = true :=
  ⟨rfl, rfl, rfl⟩

end TrayIndicator.Tray
