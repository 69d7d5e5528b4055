import TrayIndicator.Proofs.Program.Stages
import TrayIndicator.Proofs.Tray.MainLoop

/-!
# Whole runs of the tray

A published item is driven by any events: clicks anywhere, entries of its menu,
waits of the main loop, and files that change meanwhile. What it asks, what it sends
and what it shows follow from the events and the start alone, whatever the launcher
answers. A run of the program ends well once the quit entry is chosen.
-/

namespace TrayIndicator.Tray

namespace StatusItem

variable {σ : Type}

/-- The menu is an entry that makes the request to open the log and one that sends a
token; neither does what the other does. -/
theorem exists_entries_eq (indicator : Indicator σ) (pixmap : Icon.Pixmap) :
    let item : StatusItem (List Call × σ) := ⟨indicator.noting, pixmap⟩
    ∃ openLog quit, item.entries = [openLog, quit] ∧
      openLog.label = "Open log file" ∧ quit.label = "Quit" ∧ ∀ state,
        (openLog.activate state).state.launcher.1 =
          state.launcher.1 ++ [.start indicator.openRequest] ∧
        (openLog.activate state).state.tokens = state.tokens ∧
        (quit.activate state).state.launcher = state.launcher ∧
        (quit.activate state).state.tokens =
          state.tokens + if state.hasReceiver then 1 else 0 := by
  intro item
  refine ⟨⟨_, item.handle (.choose .openLogFile)⟩, ⟨_, item.handle (.choose .quit)⟩, rfl, rfl, rfl,
    fun state => ⟨?_, ?_, rfl, ?_⟩⟩
  · dsimp only
    rw [handle_launcher]
    exact indicator.noting_handle_calls _ _
  · have htokens := item.handle_tokens (.choose .openLogFile) state
    simpa [Callback.quits] using! htokens
  · have htokens := item.handle_tokens (.choose .quit) state
    simpa [Callback.quits] using! htokens

end StatusItem

end TrayIndicator.Tray

namespace TrayIndicator.Program

open CommandLine Machine Tray

/-- A run of the tray that has its settings ends well if the shell chooses the quit
entry, and else goes on. -/
theorem exitCode_of_settings {world start : World} {arguments : List (List UInt8)}
    {moment : Moment} {choice : Choice} {settings : Settings}
    (hparse : CommandLine.parse world arguments = .ok choice) (htray : choice.runsTray = true)
    (hready : ready world choice moment.day = .ok start)
    (hload : (choice.load start).1 = .ok settings) (calls : List BusCall) :
    (run world arguments moment calls).exitCode =
      if calls.any BusCall.quits then some 0 else none := by
  rw [run_eq world choice moment calls hparse, hready]
  simp only [htray, if_true]
  rw [(runLoggedTray_of_ok start choice _ moment calls hload).1, runTray_ended]

/-- Whatever happens to a published item, and whatever its launcher answers, as many
tokens were sent as the quit entry was activated until the main loop left, and it
leaves well at the first wait after the quit entry was activated. The requests are
those of the events, in order, and there was no more than one collection of children
for each wait. The shell sees what the start showed it, and each entry of the menu
does what it did then. So a run of the program in which the quit entry is chosen
exits with 0. -/
theorem tray_runs_follow_events {σ : Type} (world : World) (indicator : Indicator σ)
    (launcher : σ) (events : List TrayEvent) :
    let start := (LiveTray.publish world indicator.noting ([], launcher)).state
    let tray := (start.run events).state
    let asked := tray.state.launcher.1
    (tray.result = none ∧ tray.state.tokens = events.countP TrayEvent.quits ∨
      tray.result = some (.ok ()) ∧ ∃ before after, events = before ++ .wait :: after ∧
        (start.run before).state.result = none ∧ 0 < before.countP TrayEvent.quits ∧
        tray.state.tokens = before.countP TrayEvent.quits) ∧
      (tray.result = some (.ok ()) ↔ ∃ before after,
        events = before ++ .wait :: after ∧ before.any TrayEvent.quits = true) ∧
      requestsOf asked = events.filterMap (TrayEvent.request? indicator) ∧
      asked.count .reap ≤ events.countP TrayEvent.isWait ∧
      tray.appearance = ⟨"syncrop-indicator", indicator.settings.tooltip,
        ⟨indicator.settings.tooltip, "", "", []⟩,
        [(Icon.readOrPlaceholder world indicator.settings.iconPath).1.pixmap],
        ["Open log file", "Quit"]⟩ ∧
      (∃ openLog quit, tray.item.entries = [openLog, quit] ∧
        openLog.label = "Open log file" ∧ quit.label = "Quit" ∧ ∀ state,
          (openLog.activate state).state.launcher.1 = state.launcher.1 ++
            [.start (.open indicator.settings.opener
              (indicator.settings.logTarget indicator.home))] ∧
          (openLog.activate state).state.tokens = state.tokens ∧
          (quit.activate state).state.launcher = state.launcher ∧
          (quit.activate state).state.tokens =
            state.tokens + if state.hasReceiver then 1 else 0) ∧
      ∀ (world start : World) (arguments : List (List UInt8)) (moment : Moment)
        (choice : Choice) (settings : Settings) (calls : List BusCall),
        CommandLine.parse world arguments = .ok choice → choice.runsTray = true →
        ready world choice moment.day = .ok start → (choice.load start).1 = .ok settings →
        ((run world arguments moment calls).exitCode = some 0 ↔
          ∃ call ∈ calls, call.quits = true) := by
  intro start tray asked
  have hattended : start.Attended := ⟨rfl, rfl⟩
  have hitem : tray.item = start.item := LiveTray.run_item events start
  refine ⟨?_, ?_, ?_, ?_, ?_, ?_, ?_⟩
  · rcases hattended.run_left events with
      hloop | ⟨before, after, hevents, hloop, htoken, hsent, hleft⟩
    · have htokens := (hattended.run hloop).2
      exact .inl ⟨hloop, htokens.trans (Nat.zero_add _)⟩
    · have htokens := (hattended.run hloop).2.trans (Nat.zero_add _)
      rw [htokens] at htoken hsent
      exact .inr ⟨hleft.loop, before, after, hevents, hloop, htoken, hsent⟩
  · have hresult := (hattended.run_result events).2
    have hnone : ¬ 0 < start.state.tokens := Nat.lt_irrefl 0
    simpa only [hnone, false_or] using hresult
  · exact LiveTray.run_requests indicator events rfl
  · have hreaps : asked.count .reap ≤
        start.state.launcher.1.count .reap + events.countP TrayEvent.isWait :=
      LiveTray.run_reaps indicator events rfl
    exact hreaps.trans (Nat.zero_add _).le
  · rw [LiveTray.appearance, hitem]
    rfl
  · rw [hitem]
    exact StatusItem.exists_entries_eq indicator _
  · intro world start arguments moment choice settings calls hparse htray hready hload
    rw [exitCode_of_settings hparse htray hready hload, ← List.any_eq_true]
    cases calls.any BusCall.quits <;> simp

end TrayIndicator.Program
