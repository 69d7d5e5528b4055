import TrayIndicator.Proofs.Tray.Backends
import TrayIndicator.Tray.Bus

/-!
# Sessions on the bus

A session is the calls of a shell up to the one that chooses the quit entry. What
it asks of the launcher is what the callbacks of these calls ask, and it has ended
exactly if one of the calls chooses the quit entry.
-/

namespace TrayIndicator.Tray

namespace BusCall

/-- Does a call choose the quit entry? -/
def quits (call : BusCall) : Bool := call.callback?.any Callback.quits

/-- What a call asks of the launcher. -/
def asked {σ : Type} (indicator : Indicator σ) (call : BusCall) : List Call :=
  call.callback?.toList.flatMap fun callback => indicator.calls callback.event

end BusCall

namespace StatusItem

variable {σ : Type}

/-- The state in which a session leaves an item. -/
def stateAfter {α : Type} (steps : List (Step (ItemState σ) α)) (state : ItemState σ) :
    ItemState σ :=
  (steps.getLast?.map (·.state)).getD state

theorem stateAfter_cons {α : Type} (step : Step (ItemState σ) α)
    (steps : List (Step (ItemState σ) α)) (state : ItemState σ) :
    stateAfter (step :: steps) state = stateAfter steps step.state := by
  rw [stateAfter, stateAfter, List.getLast?_cons]
  cases steps.getLast? <;> rfl

/-- A call does to the item what its callback does. -/
theorem serve_state (item : StatusItem σ) (call : BusCall) (state : ItemState σ) :
    (item.serve call state).state =
      (call.callback?.map fun callback => (item.handle callback state).state).getD state := by
  rw [serve]
  cases call.callback? <;> rfl

/-- While the main loop is there, a call sends one token if it chooses the quit
entry, and none else. -/
theorem serve_tokens (item : StatusItem σ) (call : BusCall) {state : ItemState σ}
    (hreceiver : state.hasReceiver = true) :
    (item.serve call state).state.hasReceiver = true ∧
      (item.serve call state).state.tokens =
        state.tokens + if call.quits then 1 else 0 := by
  rw [serve_state, BusCall.quits]
  cases call.callback? with
  | none => exact ⟨hreceiver, rfl⟩
  | some callback =>
    refine ⟨(item.handle_hasReceiver callback state).trans hreceiver, ?_⟩
    simpa only [hreceiver, and_true] using! item.handle_tokens callback state

/-- A session goes on after a call exactly if it does not choose the quit entry. -/
theorem session_cons (item : StatusItem σ) (call : BusCall) (calls : List BusCall)
    {state : ItemState σ} (hreceiver : state.hasReceiver = true) :
    item.session (call :: calls) state = item.serve call state ::
      if call.quits then [] else item.session calls (item.serve call state).state := by
  rw [session, (item.serve_tokens call hreceiver).2]
  cases call.quits with
  | true => simp
  | false => simp

/-- A session has ended exactly if a token had been sent before or one of its calls
chooses the quit entry. -/
theorem ended_session (item : StatusItem σ) (calls : List BusCall) {state : ItemState σ}
    (hreceiver : state.hasReceiver = true) (htokens : state.tokens = 0) :
    ended (item.session calls state) = calls.any BusCall.quits := by
  induction calls generalizing state with
  | nil => rfl
  | cons call calls ih =>
    obtain ⟨hnext, hsent⟩ := item.serve_tokens call hreceiver
    rw [htokens, Nat.zero_add] at hsent
    rw [session_cons item call calls hreceiver, ended, List.any_cons, List.any_cons, hsent]
    cases hquits : call.quits with
    | true => rfl
    | false =>
      rw [hquits] at hsent
      exact ih hnext hsent

/-- What a session asks is what its calls ask, up to the one that chooses the quit
entry. -/
theorem session_asked (indicator : Indicator σ) (pixmap : Icon.Pixmap) (calls : List BusCall)
    {state : ItemState (List Call × σ)} (hreceiver : state.hasReceiver = true) :
    (stateAfter ((⟨indicator.noting, pixmap⟩ : StatusItem (List Call × σ)).session calls state)
        state).launcher.1 =
      state.launcher.1 ++ (upToFirst BusCall.quits calls).flatMap (BusCall.asked indicator) := by
  induction calls generalizing state with
  | nil => rw [upToFirst, List.flatMap_nil, List.append_nil]; rfl
  | cons call calls ih =>
    let item : StatusItem (List Call × σ) := ⟨indicator.noting, pixmap⟩
    have hcall : (item.serve call state).state.launcher.1 =
        state.launcher.1 ++ BusCall.asked indicator call := by
      rw [serve_state, BusCall.asked]
      cases call.callback? with
      | none => exact (List.append_nil _).symm
      | some callback =>
        rw [Option.map_some, Option.getD_some, handle_launcher, indicator.noting_handle_calls]
        simp
    rw [session_cons item call calls hreceiver, stateAfter_cons, upToFirst]
    cases hquits : call.quits with
    | true =>
      rw [if_pos rfl, if_pos rfl, List.flatMap_singleton]
      exact hcall
    | false =>
      rw [if_neg Bool.false_ne_true, if_neg Bool.false_ne_true, List.flatMap_cons,
        ih (item.serve_tokens call hreceiver).1, hcall, List.append_assoc]

end StatusItem

end TrayIndicator.Tray
