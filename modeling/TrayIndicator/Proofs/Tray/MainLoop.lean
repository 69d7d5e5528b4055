import Mathlib.Data.List.Induction
import TrayIndicator.Proofs.Tray.Backends
import TrayIndicator.Tray.MainLoop

/-!
# Runs of a published item

Whatever happens to a published item, in whatever order, each activation of the
quit entry sends one token and nothing else does, the requests are those of the
primary clicks and of the entry that opens the log, and the shell sees what it
saw at the start. The main loop leaves well at the first wait that finds a token.

How long a wait lasts is not described.
-/

namespace TrayIndicator.Tray

namespace TrayEvent

/-- The callback that an event comes to, if any. -/
def callback? : TrayEvent → Option Callback
  | .activate x y => some (.activate x y)
  | .secondaryActivate x y => some (.secondaryActivate x y)
  | .entry place => MenuAction.all[place]?.map .choose
  | .wait => none
  | .filesChange _ => none

/-- The label of the entry that an event activates, if any. -/
def label? : TrayEvent → Option String
  | .entry place => (MenuAction.all.map (·.label))[place]?
  | _ => none

/-- Is the quit entry activated? -/
def quits (event : TrayEvent) : Bool := event.label? = some "Quit"

/-- Does a wait of the main loop end? -/
def isWait : TrayEvent → Bool
  | .wait => true
  | _ => false

/-- What an event has the launcher start, if anything. -/
def request? {σ : Type} (indicator : Indicator σ) : TrayEvent → Option Request
  | .activate _ _ => some (.spawn indicator.settings.companion)
  | event =>
    if event.label? = some "Open log file" then
      some (.open indicator.settings.opener (indicator.settings.logTarget indicator.home))
    else none

/-- The entry at a place is activated by its label. -/
theorem label?_entry (place : Nat) :
    (TrayEvent.entry place).label? = MenuAction.all[place]?.map (·.label) := by
  rw [label?, List.getElem?_map]

/-- An event activates the quit entry exactly if its callback chooses it. -/
theorem quits_eq (event : TrayEvent) : event.quits = event.callback?.any Callback.quits := by
  cases event with
  | entry place =>
    rw [quits, label?_entry, callback?]
    cases MenuAction.all[place]? with
    | none => rfl
    | some action => cases action <;> rfl
  | activate x y | secondaryActivate x y | wait | filesChange files => rfl

/-- What the callback of an event asks is the request of the event. -/
theorem requestsOf_callback {σ : Type} (indicator : Indicator σ) (event : TrayEvent) :
    (event.callback?.toList.flatMap fun callback => indicator.calls callback.event) =
      (event.request? indicator).toList.map .start := by
  cases event with
  | entry place =>
    rw [callback?, request?, label?_entry]
    · cases MenuAction.all[place]? with
      | none => rfl
      | some action => cases action <;> rfl
    · simp
  | activate x y | secondaryActivate x y | wait | filesChange files => rfl

end TrayEvent

namespace LiveTray

section Steps

variable {σ : Type}

/-- Events go on from the tray that the first has left. -/
theorem run_cons_state (event : TrayEvent) (events : List TrayEvent) (tray : LiveTray σ) :
    (tray.run (event :: events)).state = ((tray.step event).state.run events).state := rfl

/-- An event with a callback hands it to the item. -/
theorem step_of_callback {event : TrayEvent} {callback : Callback}
    (h : event.callback? = some callback) (tray : LiveTray σ) :
    tray.step event = tray.keep (tray.item.handle callback tray.state) := by
  cases event with
  | activate x y | secondaryActivate x y => cases h; rfl
  | entry place =>
    obtain ⟨action, haction, rfl⟩ := Option.map_eq_some_iff.mp h
    have hentry : tray.item.entries[place]? =
        some ⟨action.label, tray.item.handle (.choose action)⟩ := by
      rw [StatusItem.entries, List.getElem?_map, StatusItem.menu, haction, Option.map_some]
    rw [step, hentry]
  | wait | filesChange files => cases h

/-- Any other event, a wait apart, leaves the state and the main loop alone. -/
theorem step_of_no_callback {event : TrayEvent} (h : event.callback? = none)
    (hwait : event ≠ .wait) (tray : LiveTray σ) :
    (tray.step event).state.state = tray.state ∧
      (tray.step event).state.result = tray.result := by
  cases event with
  | activate x y | secondaryActivate x y => cases h
  | entry place =>
    have hentry : tray.item.entries[place]? = none := by
      rw [StatusItem.entries, List.getElem?_map, StatusItem.menu, Option.map_eq_none_iff.mp h,
        Option.map_none]
    rw [step, hentry]
    exact ⟨rfl, rfl⟩
  | wait => exact absurd rfl hwait
  | filesChange files => exact ⟨rfl, rfl⟩

/-- A wait that finds a token ends the main loop well. -/
theorem step_wait_of_token {tray : LiveTray σ} (hloop : tray.result = none)
    (htoken : 0 < tray.state.tokens) :
    (tray.step .wait).state =
      { tray with state := { tray.state with hasReceiver := false }, result := some (.ok ()) } := by
  simp [step, wait, hloop, htoken]

/-- A wait in vain has children collected. -/
theorem step_wait_in_vain {tray : LiveTray σ} (hloop : tray.result = none)
    (htoken : tray.state.tokens = 0) :
    tray.step .wait = tray.keep (tray.item.tick tray.state) := by
  simp [step, wait, hloop, htoken]

/-- A main loop that has left waits no more. -/
theorem step_wait_of_left {tray : LiveTray σ} {result : Except TrayError Unit}
    (hloop : tray.result = some result) : (tray.step .wait).state = tray := by
  simp [step, wait, hloop]

/-- No event replaces the item. -/
theorem step_item (event : TrayEvent) (tray : LiveTray σ) :
    (tray.step event).state.item = tray.item := by
  cases event with
  | activate x y | secondaryActivate x y | filesChange files => rfl
  | entry place =>
    rw [step]
    cases tray.item.entries[place]? <;> rfl
  | wait =>
    rw [step, wait]
    cases tray.result with
    | some result => rfl
    | none =>
      dsimp only
      split <;> rfl

/-- The item is that of the start for good. -/
theorem run_item (events : List TrayEvent) (tray : LiveTray σ) :
    (tray.run events).state.item = tray.item := by
  induction events generalizing tray with
  | nil => rfl
  | cons event events ih => rw [run_cons_state, ih, step_item]

/-- How a main loop ended stays as it is. -/
theorem run_result_of_left (events : List TrayEvent) {tray : LiveTray σ}
    {result : Except TrayError Unit} (hloop : tray.result = some result) :
    (tray.run events).state.result = some result := by
  induction events generalizing tray with
  | nil => exact hloop
  | cons event events ih =>
    apply ih
    by_cases hwait : event = .wait
    · rw [hwait, step_wait_of_left hloop, hloop]
    · cases hcallback : event.callback? with
      | some callback => rw [step_of_callback hcallback]; exact hloop
      | none => rw [(step_of_no_callback hcallback hwait tray).2, hloop]

/-- Is the main loop there to take tokens? -/
structure Attended (tray : LiveTray σ) : Prop where
  /-- It has not left. -/
  loop : tray.result = none
  /-- Tokens reach it. -/
  receiver : tray.state.hasReceiver = true

/-- Unless a wait finds a token the main loop goes on, and a token is sent exactly
if the quit entry is activated. -/
theorem Attended.step {tray : LiveTray σ} (h : tray.Attended) {event : TrayEvent}
    (hvain : event = .wait → tray.state.tokens = 0) :
    (tray.step event).state.Attended ∧ (tray.step event).state.state.tokens =
      tray.state.tokens + if event.quits then 1 else 0 := by
  rw [event.quits_eq]
  cases hcallback : event.callback? with
  | some callback =>
    rw [step_of_callback hcallback]
    refine ⟨⟨h.loop, (tray.item.handle_hasReceiver callback tray.state).trans h.receiver⟩, ?_⟩
    simpa only [h.receiver, and_true] using! tray.item.handle_tokens callback tray.state
  | none =>
    by_cases hwait : event = .wait
    · rw [hwait, step_wait_in_vain h.loop (hvain hwait)]
      exact ⟨⟨h.loop, h.receiver⟩, rfl⟩
    · obtain ⟨hstate, hresult⟩ := step_of_no_callback hcallback hwait tray
      exact ⟨⟨hresult.trans h.loop, by rw [hstate, h.receiver]⟩, by rw [hstate]; rfl⟩

/-- Has the main loop left well? Then nobody takes tokens. -/
structure Deserted (tray : LiveTray σ) : Prop where
  /-- It has left well. -/
  loop : tray.result = some (.ok ())
  /-- Tokens are lost. -/
  receiver : tray.state.hasReceiver = false

/-- Where the main loop has left, no event brings it back or sends a token. -/
theorem Deserted.step {tray : LiveTray σ} (h : tray.Deserted) (event : TrayEvent) :
    (tray.step event).state.state.tokens = tray.state.tokens ∧
      (tray.step event).state.Deserted := by
  by_cases hwait : event = .wait
  · rw [hwait, step_wait_of_left h.loop]
    exact ⟨rfl, h⟩
  · cases hcallback : event.callback? with
    | some callback =>
      rw [step_of_callback hcallback]
      refine ⟨?_, h.loop, (tray.item.handle_hasReceiver callback tray.state).trans h.receiver⟩
      have htokens := tray.item.handle_tokens callback tray.state
      simpa [h.receiver] using! htokens
    | none =>
      obtain ⟨hstate, hresult⟩ := step_of_no_callback hcallback hwait tray
      exact ⟨by rw [hstate], hresult.trans h.loop, by rw [hstate, h.receiver]⟩

end Steps

section Runs

variable {σ : Type}

/-- Events go on where those before them ended. -/
theorem run_append_state (before after : List TrayEvent) (tray : LiveTray σ) :
    (tray.run (before ++ after)).state = ((tray.run before).state.run after).state := by
  induction before generalizing tray with
  | nil => rfl
  | cons event before ih => exact ih (tray.step event).state

/-- As long as the main loop waits, as many tokens have been sent as the quit
entry was activated. -/
theorem Attended.run {tray : LiveTray σ} (h : tray.Attended) {events : List TrayEvent}
    (hloop : (tray.run events).state.result = none) :
    (tray.run events).state.Attended ∧ (tray.run events).state.state.tokens =
      tray.state.tokens + events.countP TrayEvent.quits := by
  induction events generalizing tray with
  | nil => exact ⟨h, rfl⟩
  | cons event events ih =>
    have hvain : event = .wait → tray.state.tokens = 0 := by
      -- a wait that finds a token would have ended the loop for good
      rintro rfl
      by_contra htoken
      have hleft : (tray.step .wait).state.result = some (.ok ()) := by
        rw [step_wait_of_token h.loop (Nat.pos_of_ne_zero htoken)]
      rw [run_cons_state, run_result_of_left events hleft] at hloop
      cases hloop
    obtain ⟨hnext, htokens⟩ := h.step hvain
    obtain ⟨hlast, hsent⟩ := ih hnext hloop
    refine ⟨hlast, ?_⟩
    rw [run_cons_state, hsent, htokens, List.countP_cons]
    omega

/-- The main loop goes on, or it has left well at a wait that found a token; then no
token was sent any more. -/
theorem Attended.run_left {tray : LiveTray σ} (h : tray.Attended) (events : List TrayEvent) :
    (tray.run events).state.result = none ∨
      ∃ before after, events = before ++ .wait :: after ∧
        (tray.run before).state.result = none ∧ 0 < (tray.run before).state.state.tokens ∧
        (tray.run events).state.state.tokens = (tray.run before).state.state.tokens ∧
        (tray.run events).state.Deserted := by
  induction events using List.reverseRecOn with
  | nil => exact .inl h.loop
  | append_singleton events event ih =>
    have hlast : (tray.run (events ++ [event])).state =
        ((tray.run events).state.step event).state := run_append_state events [event] tray
    rcases ih with hloop | ⟨before, after, rfl, hloop, htoken, hsent, hleft⟩
    · have hattended := (h.run hloop).1
      by_cases htaken : event = .wait ∧ 0 < (tray.run events).state.state.tokens
      · obtain ⟨rfl, htoken⟩ := htaken
        refine .inr ⟨events, [], rfl, hloop, htoken, ?_⟩
        rw [hlast, step_wait_of_token hloop htoken]
        exact ⟨rfl, rfl, rfl⟩
      · left
        rw [hlast]
        refine (hattended.step fun hwait => ?_).1.loop
        exact Nat.eq_zero_of_not_pos fun htoken => htaken ⟨hwait, htoken⟩
    · obtain ⟨hsame, hstill⟩ := hleft.step event
      refine .inr ⟨before, after ++ [event], by simp, hloop, htoken, ?_⟩
      rw [hlast]
      exact ⟨hsame.trans hsent, hstill⟩

/-- While the main loop waits, it has a token to find if there was one at first or the
quit entry was activated. -/
theorem Attended.run_tokens_pos_iff {tray : LiveTray σ} (h : tray.Attended)
    {events : List TrayEvent} (hloop : (tray.run events).state.result = none) :
    0 < (tray.run events).state.state.tokens ↔
      0 < tray.state.tokens ∨ events.any TrayEvent.quits = true := by
  rw [(h.run hloop).2, Nat.add_pos_iff_pos_or_pos, List.countP_pos_iff, List.any_eq_true]

/-- The main loop leaves at the first wait that finds a token, and leaves well. -/
theorem Attended.run_result {tray : LiveTray σ} (h : tray.Attended) (events : List TrayEvent) :
    let result := (tray.run events).state.result
    (result = none ∨ result = some (.ok ())) ∧
      (result = some (.ok ()) ↔ ∃ before after, events = before ++ .wait :: after ∧
        (0 < tray.state.tokens ∨ before.any TrayEvent.quits = true)) := by
  intro result
  have hcases := h.run_left events
  refine ⟨hcases.imp id fun ⟨_, _, _, _, _, _, hleft⟩ => hleft.loop, ?_, ?_⟩
  · intro hresult
    rcases hcases with hloop | ⟨before, after, hevents, hloop, htoken, _, _⟩
    · cases hloop.symm.trans hresult
    · exact ⟨before, after, hevents, (h.run_tokens_pos_iff hloop).mp htoken⟩
  · rintro ⟨before, after, hevents, hquit⟩
    by_contra hresult
    have hloop : (tray.run events).state.result = none :=
      hcases.resolve_right fun ⟨_, _, _, _, _, _, hleft⟩ => hresult hleft.loop
    -- the loop has not left before that wait, which then finds a token
    rw [hevents, run_append_state, run_cons_state] at hloop
    have hbefore : (tray.run before).state.result = none := by
      cases hend : (tray.run before).state.result with
      | none => rfl
      | some ended =>
        rw [step_wait_of_left hend, run_result_of_left after hend] at hloop
        cases hloop
    have htoken := (h.run_tokens_pos_iff hbefore).mpr hquit
    rw [step_wait_of_token hbefore htoken, run_result_of_left after rfl] at hloop
    cases hloop

end Runs

section Requests

variable {σ : Type} (indicator : Indicator σ)

/-- What is asked at an event: its request, or at a wait in vain a collection of
children. -/
def asked (tray : LiveTray (List Call × σ)) : TrayEvent → List Call
  | .wait => if tray.result.isNone && tray.state.tokens = 0 then [.reap] else []
  | event => (event.request? indicator).toList.map .start

/-- What is asked at an event that is no wait. -/
theorem asked_of_ne_wait (tray : LiveTray (List Call × σ)) {event : TrayEvent}
    (hwait : event ≠ .wait) :
    tray.asked indicator event = (event.request? indicator).toList.map .start := by
  cases event with
  | wait => exact absurd rfl hwait
  | activate x y | secondaryActivate x y | entry place | filesChange files => rfl

/-- What is noted at an event. -/
theorem step_asked {tray : LiveTray (List Call × σ)}
    (hindicator : tray.item.indicator = indicator.noting) (event : TrayEvent) :
    (tray.step event).state.state.launcher.1 =
      tray.state.launcher.1 ++ tray.asked indicator event := by
  by_cases hwait : event = .wait
  · subst hwait
    cases hloop : tray.result with
    | some result =>
      rw [step_wait_of_left hloop]
      simp [asked, hloop]
    | none =>
      by_cases htoken : tray.state.tokens = 0
      · rw [step_wait_in_vain hloop htoken]
        simp [asked, keep, StatusItem.tick, Indicator.tick, hindicator, Indicator.noting,
          Launcher.noting, hloop, htoken]
      · rw [step_wait_of_token hloop (Nat.pos_of_ne_zero htoken)]
        simp [asked, htoken]
  · rw [asked_of_ne_wait indicator tray hwait, ← TrayEvent.requestsOf_callback]
    cases hcallback : event.callback? with
    | some callback =>
      rw [step_of_callback hcallback, keep, StatusItem.handle_launcher, hindicator,
        indicator.noting_handle_calls]
      simp
    | none =>
      rw [(step_of_no_callback hcallback hwait tray).1]
      simp

/-- The requests of a run are those of its events, in order. -/
theorem run_requests (events : List TrayEvent) {tray : LiveTray (List Call × σ)}
    (hindicator : tray.item.indicator = indicator.noting) :
    requestsOf (tray.run events).state.state.launcher.1 =
      requestsOf tray.state.launcher.1 ++ events.filterMap (TrayEvent.request? indicator) := by
  induction events generalizing tray with
  | nil => rw [run, List.filterMap_nil, List.append_nil]
  | cons event events ih =>
    have hevent : requestsOf (tray.asked indicator event) =
        (event.request? indicator).toList := by
      by_cases hwait : event = .wait
      · rw [hwait, asked]
        split <;> rfl
      · rw [asked_of_ne_wait indicator tray hwait]
        cases event.request? indicator <;> rfl
    rw [run_cons_state, ih (by rw [step_item, hindicator]), step_asked indicator hindicator,
      requestsOf_append, hevent, List.append_assoc]
    cases hrequest : event.request? indicator with
    | none => rw [List.filterMap_cons_none hrequest]; rfl
    | some request => rw [List.filterMap_cons_some hrequest]; rfl

/-- Children are collected at waits only, and at most once at each. -/
theorem run_reaps (events : List TrayEvent) {tray : LiveTray (List Call × σ)}
    (hindicator : tray.item.indicator = indicator.noting) :
    (tray.run events).state.state.launcher.1.count .reap ≤
      tray.state.launcher.1.count .reap + events.countP TrayEvent.isWait := by
  induction events generalizing tray with
  | nil => exact Nat.le_refl _
  | cons event events ih =>
    have hevent : (tray.asked indicator event).count .reap ≤ if event.isWait then 1 else 0 := by
      by_cases hwait : event = .wait
      · rw [hwait, asked]
        split <;> decide
      · rw [asked_of_ne_wait indicator tray hwait]
        cases event.request? indicator <;> exact Nat.zero_le _
    have hitem : (tray.step event).state.item.indicator = indicator.noting := by
      rw [step_item, hindicator]
    have hlater := ih hitem
    rw [step_asked indicator hindicator, List.count_append] at hlater
    rw [run_cons_state, List.countP_cons]
    omega

end Requests

end LiveTray

end TrayIndicator.Tray
