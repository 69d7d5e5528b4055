import TrayIndicator.Proofs.Tray.MainLoop
import TrayIndicator.Proofs.Tray.Session

/-!
# What an indicator ever asks

An indicator knows two requests: to open the log with its opener, and to start its
companion. Whichever desktop it runs on, and whatever happens there, it asks its
launcher for nothing but these, and for children to be collected.
-/

namespace TrayIndicator

/-- Is a call one that the indicator makes? -/
def Indicator.Makes {σ : Type} (indicator : Indicator σ) : Call → Prop
  | .start request => request = indicator.openRequest ∨ request = indicator.companionRequest
  | .reap => True

namespace Indicator

variable {σ : Type} (indicator : Indicator σ)

/-- Every call of an event is one that the indicator makes. -/
theorem makes_of_mem_calls {event : IndicatorEvent} {call : Call}
    (h : call ∈ indicator.calls event) : indicator.Makes call := by
  by_cases htick : event = .tick
  · subst htick
    rw [List.mem_singleton.mp h]
    trivial
  · rw [calls_of_ne_tick indicator htick, List.mem_map] at h
    obtain ⟨request, hrequest, rfl⟩ := h
    rw [Option.mem_toList] at hrequest
    unfold request? at hrequest
    split at hrequest
    · exact .inr (Option.some.inj hrequest).symm
    · split at hrequest
      · exact .inl (Option.some.inj hrequest).symm
      · cases hrequest

end Indicator

namespace Tray

section EventLoop

variable {σ : Type} (indicator : Indicator σ)

/-- A pass asks for calls that the indicator makes. -/
theorem makes_of_mem_passReport {earlier : List Call} {clicks : ClickFilter} {queued : Queues}
    {call : Call} (h : call ∈ (passReport indicator earlier clicks queued).asked) :
    call ∈ earlier ∨ indicator.Makes call := by
  have hopens (ids : List String) (hcall : call ∈ opens indicator ids) :
      indicator.Makes call := by
    obtain ⟨id, -, rfl⟩ := List.mem_map.mp hcall
    exact .inl rfl
  have hspawns (hcall : call ∈ spawns indicator clicks queued.icon) : indicator.Makes call := by
    obtain ⟨reason, -, rfl⟩ := List.mem_map.mp hcall
    exact .inr rfl
  unfold passReport at h
  split at h
  · exact (List.mem_append.mp h).imp id (hopens _)
  · rw [List.mem_append, List.mem_append, List.mem_append, List.mem_singleton] at h
    rcases h with hearlier | (hcall | hcall) | rfl
    · exact .inl hearlier
    · exact .inr (hopens _ hcall)
    · exact .inr (hspawns hcall)
    · exact .inr trivial

/-- A call of the loop asks for calls that the indicator makes. -/
theorem makes_of_mem_answer {call : LoopCall} {app : App (List Call × σ)} {made : Call}
    (h : made ∈ (app.answer indicator.noting call).app.launcher.1) :
    made ∈ app.launcher.1 ∨ indicator.Makes made := by
  cases call with
  | resumed world answers =>
    left
    -- building the icon leaves the launcher alone
    have hlauncher : (app.resume world indicator.noting answers).state.launcher =
        app.launcher := by
      unfold App.resume
      split
      · split <;> rfl
      · rfl
    rwa [App.answer, hlauncher] at h
  | windowEvent => exact .inl h
  | aboutToWait queued =>
    obtain ⟨-, -, hasked, -, -⟩ := answer_aboutToWait indicator queued app
    rw [hasked] at h
    exact makes_of_mem_passReport indicator h

/-- Visits ask for calls that the indicator makes. -/
theorem makes_of_mem_visits {calls : List LoopCall} {app : App (List Call × σ)}
    {visit : Visit (List Call × σ)} (hvisit : visit ∈ App.visits indicator.noting calls app)
    {made : Call} (hmade : made ∈ visit.app.launcher.1) :
    made ∈ app.launcher.1 ∨ indicator.Makes made := by
  induction calls generalizing app with
  | nil => cases hvisit
  | cons call calls ih =>
    rcases List.mem_cons.mp hvisit with rfl | hlater
    · exact makes_of_mem_answer indicator hmade
    · rcases ih hlater with hnext | hmakes
      · exact makes_of_mem_answer indicator hnext
      · exact .inr hmakes

end EventLoop

section Item

variable {σ : Type} (indicator : Indicator σ)

/-- A run of a published item asks for calls that the indicator makes. -/
theorem LiveTray.makes_of_mem_run {events : List TrayEvent} {tray : LiveTray (List Call × σ)}
    (hindicator : tray.item.indicator = indicator.noting) {made : Call}
    (hmade : made ∈ (tray.run events).state.state.launcher.1) :
    made ∈ tray.state.launcher.1 ∨ indicator.Makes made := by
  induction events generalizing tray with
  | nil => exact .inl hmade
  | cons event events ih =>
    have hitem : (tray.step event).state.item.indicator = indicator.noting := by
      rw [step_item, hindicator]
    rcases ih hitem hmade with hnext | hmakes
    · rw [step_asked indicator hindicator, List.mem_append] at hnext
      refine hnext.imp id fun hasked => ?_
      by_cases hwait : event = .wait
      · rw [hwait, asked] at hasked
        split at hasked
        · rw [List.mem_singleton.mp hasked]
          trivial
        · cases hasked
      · rw [asked_of_ne_wait indicator tray hwait, ← TrayEvent.requestsOf_callback,
          List.mem_flatMap] at hasked
        obtain ⟨callback, -, hcall⟩ := hasked
        exact indicator.makes_of_mem_calls hcall
    · exact .inr hmakes

/-- The calls of a shell ask for calls that the indicator makes. -/
theorem BusCall.makes_of_mem_asked {calls : List BusCall} {made : Call}
    (hmade : made ∈ calls.flatMap (BusCall.asked indicator)) : indicator.Makes made := by
  obtain ⟨call, -, hasked⟩ := List.mem_flatMap.mp hmade
  obtain ⟨callback, -, hcall⟩ := List.mem_flatMap.mp hasked
  exact indicator.makes_of_mem_calls hcall

end Item

end Tray

end TrayIndicator
