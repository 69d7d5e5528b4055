import TrayIndicator.Proofs.Indicator.Dispatch
import TrayIndicator.Tray.StatusItem

/-!
# Runs of a status item

The shell reports one callback after the other. What a status item asks of the
launcher is what the dispatch table says of each callback, and it sends one
token for each choice of the quit entry. The launcher is any launcher.
-/

namespace TrayIndicator.Tray

namespace Callback

/-- The event that a callback hands to the indicator. -/
def event : Callback → IndicatorEvent
  | .activate _ _ => .activate .trigger
  | .secondaryActivate _ _ => .activate .middleClick
  | .choose action => .menu action

/-- Does a callback choose the quit entry? -/
def quits : Callback → Bool
  | .choose .quit => true
  | _ => false

/-- Choosing the quit entry asks nothing of the launcher. -/
theorem calls_of_quits {σ : Type} (indicator : Indicator σ) {callback : Callback}
    (h : callback.quits = true) : indicator.calls callback.event = [] := by
  cases callback with
  | activate x y | secondaryActivate x y => cases h
  | choose action =>
    cases action with
    | openLogFile => cases h
    | quit => rfl

end Callback

namespace StatusItem

variable {σ : Type} (item : StatusItem σ)

/-- Answers callbacks one after the other. -/
def handleAll : List Callback → ItemState σ → Step (ItemState σ) Unit
  | [], state => ⟨(), state, []⟩
  | callback :: callbacks, state =>
    let step := item.handle callback state
    let later := handleAll callbacks step.state
    ⟨(), later.state, step.events ++ later.events⟩

/-- A callback does to the launcher what its event does. -/
theorem handle_launcher (callback : Callback) (state : ItemState σ) :
    (item.handle callback state).state.launcher =
      (item.indicator.handle callback.event state.launcher).state := by
  cases callback <;> rfl

/-- No callback concerns whether the main loop is there. -/
theorem handle_hasReceiver (callback : Callback) (state : ItemState σ) :
    (item.handle callback state).state.hasReceiver = state.hasReceiver := by
  cases callback <;> rfl

/-- Only the choice of the quit entry sends a token. -/
theorem handle_tokens (callback : Callback) (state : ItemState σ) :
    (item.handle callback state).state.tokens =
      state.tokens + if callback.quits ∧ state.hasReceiver then 1 else 0 := by
  cases callback with
  | activate x y | secondaryActivate x y =>
    simp [handle, settle, Indicator.onActivation_answer, Callback.quits]
  | choose action =>
    simp only [handle, settle, Indicator.onMenu_answer]
    cases action <;> simp [Callback.quits]

/-- While the main loop is there, as many tokens are sent as the quit entry is
chosen. -/
theorem handleAll_tokens (callbacks : List Callback) {state : ItemState σ}
    (hreceiver : state.hasReceiver = true) :
    (item.handleAll callbacks state).state.tokens =
      state.tokens + callbacks.countP Callback.quits := by
  induction callbacks generalizing state with
  | nil => rfl
  | cons callback callbacks ih =>
    have hsent : (item.handle callback state).state.tokens =
        state.tokens + if callback.quits then 1 else 0 := by
      simp only [handle_tokens, hreceiver, and_true]
    rw [handleAll, ih (by rw [handle_hasReceiver, hreceiver]), hsent, List.countP_cons]
    omega

/-- What is noted of callbacks is what the table says of each, whatever the
launcher answers. -/
theorem handleAll_noting (indicator : Indicator σ) (pixmap : Icon.Pixmap)
    (callbacks : List Callback) (state : ItemState (List Call × σ)) :
    ((⟨indicator.noting, pixmap⟩ : StatusItem (List Call × σ)).handleAll callbacks
        state).state.launcher.1 =
      state.launcher.1 ++ callbacks.flatMap fun callback => indicator.calls callback.event := by
  induction callbacks generalizing state with
  | nil => rw [handleAll, List.flatMap_nil, List.append_nil]
  | cons callback callbacks ih =>
    rw [handleAll, ih, handle_launcher, indicator.noting_handle_calls, List.flatMap_cons,
      List.append_assoc]

end StatusItem

end TrayIndicator.Tray
