import TrayIndicator.Proofs.Tray.Backends

/-!
# The life of the application

The loop may resume the application and let it wait in any order and as often
as it likes. The application attempts to build its icon whenever it is resumed,
until an attempt succeeds; from then on no call concerns the icon. It asks to
exit where an attempt fails and where a quit id is queued. The last attempt that
failed decides how a run ends, whatever came after it.

Nothing is said of when the loop heeds the request to exit.
-/

namespace TrayIndicator.Tray

/-- The outcomes of the attempts to build the icon that calls make: one whenever
the application is resumed, up to the first that succeeds. -/
def attempts (settings : Settings) : List LoopCall → List (Except TrayError TrayIcon)
  | [] => []
  | .resumed world answers :: calls =>
    let outcome := (buildIcon world settings answers).1
    outcome :: if outcome.isOk then [] else attempts settings calls
  | .windowEvent :: calls => attempts settings calls
  | .aboutToWait _ :: calls => attempts settings calls

/-- The icons that attempts have built. -/
def iconsOf (outcomes : List (Except TrayError TrayIcon)) : List TrayIcon :=
  outcomes.filterMap Except.toOption

/-- The failures of attempts, in order. -/
def failuresOf (outcomes : List (Except TrayError TrayIcon)) : List TrayError :=
  outcomes.filterMap fun
    | .ok _ => none
    | .error error => some error

/-- No attempt follows one that has succeeded, so there is at most one icon. -/
theorem length_iconsOf_attempts (settings : Settings) (calls : List LoopCall) :
    (iconsOf (attempts settings calls)).length ≤ 1 := by
  induction calls with
  | nil => exact Nat.zero_le 1
  | cons call calls ih =>
    cases call with
    | resumed world answers =>
      rw [attempts]
      cases (buildIcon world settings answers).1 with
      | ok icon => exact Nat.le_refl 1
      | error error => exact ih
    | windowEvent | aboutToWait queued => exact ih

/-- No attempt is made once the icon has been built. -/
theorem attempts_append_of_built (settings : Settings) {before : List LoopCall}
    (hbuilt : iconsOf (attempts settings before) ≠ []) (later : List LoopCall) :
    attempts settings (before ++ later) = attempts settings before := by
  induction before with
  | nil => exact absurd rfl hbuilt
  | cons call before ih =>
    cases call with
    | resumed world answers =>
      rw [attempts] at hbuilt
      rw [List.cons_append, attempts, attempts]
      cases houtcome : (buildIcon world settings answers).1 with
      | ok icon => rfl
      | error error =>
        rw [houtcome] at hbuilt
        exact congrArg _ (ih hbuilt)
    | windowEvent | aboutToWait queued => exact ih hbuilt

/-- There is no failure exactly if every attempt has succeeded. -/
theorem failuresOf_eq_nil_iff (outcomes : List (Except TrayError TrayIcon)) :
    failuresOf outcomes = [] ↔ ∀ outcome ∈ outcomes, outcome.isOk = true := by
  rw [failuresOf, List.filterMap_eq_nil_iff]
  refine forall₂_congr fun outcome _ => ?_
  cases outcome with
  | ok icon => simp [Except.isOk, Except.toBool]
  | error error => simp [Except.isOk, Except.toBool]

section Calls

variable {σ : Type} (indicator : Indicator σ)

/-- The menu queue asks to exit exactly if a quit id is in it. -/
theorem drainMenu_exits (ids : List String) (launcher : σ) :
    (App.drainMenu indicator ids launcher).answer.1 = .exit ↔ "quit" ∈ ids := by
  induction ids generalizing launcher with
  | nil => simp [App.drainMenu]
  | cons id ids ih =>
    by_cases hquit : id = "quit"
    · subst hquit
      have hexit := (onMenuId_answer indicator "quit" launcher).mpr rfl
      simp [App.drainMenu, hexit]
    · have hproceed : ¬ (indicator.onMenuId id launcher).answer = .exit := fun h =>
        hquit ((onMenuId_answer indicator id launcher).mp h)
      simp only [App.drainMenu, if_neg hproceed, ih, List.mem_cons, Ne.symm hquit, false_or]

/-- A pass asks to exit exactly if a quit id is queued, and concerns neither the
icon nor the failure. -/
theorem answer_pass (queued : Queues) (app : App σ) :
    let visit := App.answer indicator (.aboutToWait queued) app
    (visit.exits = true ↔ "quit" ∈ queued.menu) ∧ visit.app.icons = app.icons ∧
      visit.app.failure = app.failure := by
  have hmenu := drainMenu_exits indicator queued.menu app.launcher
  obtain ⟨flow, left, hanswer⟩ : ∃ flow left,
      (App.drainMenu indicator queued.menu app.launcher).answer = (flow, left) := ⟨_, _, rfl⟩
  rw [hanswer] at hmenu
  cases flow with
  | exit => simpa [App.answer, App.drain, hanswer] using hmenu
  | proceed => simpa [App.answer, App.drain, hanswer] using hmenu

/-- Where the icon is there, resuming the application does nothing, whatever the
world is like and whatever the toolkit would answer. -/
theorem answer_resumed_of_built {app : App σ} (hicons : app.icons ≠ []) (world : World)
    (answers : BuildAnswers) :
    App.answer indicator (.resumed world answers) app =
      ⟨.resumed world answers, false, false, ⟨[], []⟩, app, []⟩ := by
  have hpresent : app.icons.isEmpty = false := List.isEmpty_eq_false_iff.mpr hicons
  simp [App.answer, App.resume, hpresent]

/-- Where there is no icon, resuming the application attempts to build it: the
icon is kept, or the failure, and the failure asks to exit. -/
theorem answer_resumed_of_unbuilt {app : App σ} (hicons : app.icons = []) (world : World)
    (answers : BuildAnswers) :
    let outcome := (buildIcon world indicator.settings answers).1
    let visit := App.answer indicator (.resumed world answers) app
    visit.app.icons = iconsOf [outcome] ∧
      visit.app.failure = (failuresOf [outcome]).getLast?.or app.failure ∧
      visit.exits = !outcome.isOk := by
  simp only [App.answer, App.resume, hicons, List.isEmpty_nil, if_true]
  cases buildIcon world indicator.settings answers with
  | mk outcome events => cases outcome <;> exact ⟨rfl, rfl, rfl⟩

/-- A call asks to exit exactly if it is an attempt that fails or a pass that
finds a quit id. -/
theorem answer_exits_iff (call : LoopCall) (app : App σ) :
    (App.answer indicator call app).exits = true ↔
      (∃ world answers, call = .resumed world answers ∧ app.icons = [] ∧
        ∃ error, (buildIcon world indicator.settings answers).1 = .error error) ∨
      ∃ queued, call = .aboutToWait queued ∧ "quit" ∈ queued.menu := by
  cases call with
  | resumed world answers =>
    by_cases hicons : app.icons = []
    · obtain ⟨_, _, hexits⟩ := answer_resumed_of_unbuilt indicator hicons world answers
      rw [hexits]
      cases houtcome : (buildIcon world indicator.settings answers).1 with
      | ok icon => simp [Except.isOk, Except.toBool, houtcome]
      | error error => exact iff_of_true rfl (.inl ⟨world, answers, rfl, hicons, error, houtcome⟩)
    · rw [answer_resumed_of_built indicator hicons]
      simp [hicons]
  | windowEvent => simp [App.answer]
  | aboutToWait queued =>
    rw [(answer_pass indicator queued app).1]
    simp

end Calls

section Runs

variable {σ : Type} (indicator : Indicator σ)

/-- The visits of calls made one after the other: later calls are answered by the
application that the earlier ones have left. -/
theorem visits_append (before later : List LoopCall) (app : App σ) :
    App.visits indicator (before ++ later) app =
      App.visits indicator before app ++
        App.visits indicator later (appAfter (App.visits indicator before app) app) := by
  induction before generalizing app with
  | nil => rfl
  | cons call before ih =>
    rw [List.cons_append, App.visits, App.visits, ih, appAfter_cons, List.cons_append]

/-- Once the icon is there, no call concerns it or the failure. -/
theorem appAfter_of_built (calls : List LoopCall) (app : App σ) (hicons : app.icons ≠ []) :
    let later := appAfter (App.visits indicator calls app) app
    later.icons = app.icons ∧ later.failure = app.failure := by
  induction calls generalizing app with
  | nil => exact ⟨rfl, rfl⟩
  | cons call calls ih =>
    have hkept : (App.answer indicator call app).app.icons = app.icons ∧
        (App.answer indicator call app).app.failure = app.failure := by
      cases call with
      | resumed world answers =>
        rw [answer_resumed_of_built indicator hicons]
        exact ⟨rfl, rfl⟩
      | windowEvent => exact ⟨rfl, rfl⟩
      | aboutToWait queued => exact (answer_pass indicator queued app).2
    rw [App.visits, appAfter_cons]
    obtain ⟨hlaterIcons, hlaterFailure⟩ := ih _ (by rw [hkept.1]; exact hicons)
    exact ⟨hlaterIcons.trans hkept.1, hlaterFailure.trans hkept.2⟩

/-- After any calls the application holds what its attempts have built, and the
failure of the last attempt that failed. -/
theorem appAfter_of_unbuilt (calls : List LoopCall) (app : App σ) (hicons : app.icons = []) :
    let later := appAfter (App.visits indicator calls app) app
    let outcomes := attempts indicator.settings calls
    later.icons = iconsOf outcomes ∧
      later.failure = (failuresOf outcomes).getLast?.or app.failure := by
  induction calls generalizing app with
  | nil => exact ⟨hicons, rfl⟩
  | cons call calls ih =>
    rw [App.visits, appAfter_cons]
    cases call with
    | resumed world answers =>
      obtain ⟨hbuilt, hfailed, _⟩ := answer_resumed_of_unbuilt indicator hicons world answers
      rw [attempts]
      cases houtcome : (buildIcon world indicator.settings answers).1 with
      | ok icon =>
        -- no later call concerns the icon that has been built
        rw [houtcome] at hbuilt hfailed
        obtain ⟨hlaterIcons, hlaterFailure⟩ := appAfter_of_built indicator calls
          (App.answer indicator (.resumed world answers) app).app
          (by rw [hbuilt]; exact List.cons_ne_nil icon [])
        exact ⟨hlaterIcons.trans hbuilt, hlaterFailure.trans hfailed⟩
      | error error =>
        rw [houtcome] at hbuilt hfailed
        obtain ⟨hlaterIcons, hlaterFailure⟩ := ih _ hbuilt
        refine ⟨hlaterIcons, ?_⟩
        rw [hlaterFailure, hfailed]
        -- a later failure hides this one, which hides those before it
        change _ = (error :: failuresOf (attempts indicator.settings calls)).getLast?.or app.failure
        rw [List.getLast?_cons]
        cases (failuresOf (attempts indicator.settings calls)).getLast? <;> rfl
    | windowEvent => exact ih _ hicons
    | aboutToWait queued =>
      obtain ⟨_, hsame, hfailed⟩ := answer_pass indicator queued app
      obtain ⟨hlaterIcons, hlaterFailure⟩ := ih _ (hsame.trans hicons)
      exact ⟨hlaterIcons, hlaterFailure.trans (by rw [hfailed]; rfl)⟩

/-- The visits up to the first that asks to exit are those of the first calls. -/
theorem exists_visits_eq_untilExit (calls : List LoopCall) (app : App σ) :
    ∃ made, made <+: calls ∧
      untilExit (App.visits indicator calls app) = App.visits indicator made app := by
  induction calls generalizing app with
  | nil => exact ⟨[], List.prefix_rfl, rfl⟩
  | cons call calls ih =>
    rw [App.visits, untilExit]
    cases (App.answer indicator call app).exits with
    | true => exact ⟨[call], by simp, rfl⟩
    | false =>
      obtain ⟨made, hmade, hvisits⟩ := ih (App.answer indicator call app).app
      refine ⟨call :: made, List.cons_prefix_cons.mpr ⟨rfl, hmade⟩, ?_⟩
      rw [App.visits, ← hvisits]
      rfl

/-- A loop that ends without an error of its own leaves the failure of the
application as the result. -/
theorem result_of_normal {toolkit : Toolkit} (hnormal : toolkit.exitCode = none) (app : App σ) :
    toolkit.result app =
      match app.failure with
      | some error => .error error
      | none => .ok () := by
  rw [Toolkit.result, hnormal]
  cases app.failure <;> rfl

/-- The application builds at most one icon and keeps the last failure, whatever
is called in whatever order. It holds what its attempts have built; once the icon
is there, no attempt is made and resuming does nothing in any world. A call asks
to exit exactly if it is an attempt that fails or a pass that finds a quit id. A
loop that ends without an error of its own ends well exactly if no attempt has
failed, and else with the failure of the last attempt that did. Every run of the
loop makes such calls. -/
theorem one_icon_and_last_failure (launcher : σ) :
    let start := App.start launcher
    let visits (calls : List LoopCall) := App.visits indicator calls start
    let app (calls : List LoopCall) := appAfter (visits calls) start
    let outcomes (calls : List LoopCall) := attempts indicator.settings calls
    (∀ before call later, (visits (before ++ call :: later))[before.length]? =
      some (App.answer indicator call (app before))) ∧
    (∀ calls, (app calls).icons = iconsOf (outcomes calls) ∧ (app calls).icons.length ≤ 1) ∧
    (∀ before, (app before).icons ≠ [] →
      (∀ later, (app (before ++ later)).icons = (app before).icons ∧
        outcomes (before ++ later) = outcomes before) ∧
      ∀ world answers, App.answer indicator (.resumed world answers) (app before) =
        ⟨.resumed world answers, false, false, ⟨[], []⟩, app before, []⟩) ∧
    (∀ before call, (App.answer indicator call (app before)).exits = true ↔
      (∃ world answers, call = .resumed world answers ∧ (app before).icons = [] ∧
        ∃ error, (buildIcon world indicator.settings answers).1 = .error error) ∨
      ∃ queued, call = .aboutToWait queued ∧ "quit" ∈ queued.menu) ∧
    (∀ (toolkit : Toolkit) (calls : List LoopCall), toolkit.exitCode = none →
      (toolkit.result (app calls) = .ok () ↔ ∀ outcome ∈ outcomes calls, outcome.isOk = true) ∧
      ∀ error, toolkit.result (app calls) = .error error ↔
        (failuresOf (outcomes calls)).getLast? = some error) ∧
    ∀ (toolkit : Toolkit) (world : World) (wakes : List Wake), toolkit.hasEventLoop = true →
      let run := toolkit.run world indicator wakes launcher
      ∃ calls, calls <+: .resumed world toolkit.answers :: wakes.flatMap (toolkit.callsOf world) ∧
        run.visits = visits calls ∧ run.result = toolkit.result (app calls) := by
  intro start visits app outcomes
  have hheld (calls : List LoopCall) : (app calls).icons = iconsOf (outcomes calls) ∧
      (app calls).failure = (failuresOf (outcomes calls)).getLast? := by
    obtain ⟨hicons, hfailure⟩ := appAfter_of_unbuilt indicator calls start rfl
    exact ⟨hicons, hfailure.trans Option.or_none⟩
  refine ⟨?_, ?_, ?_, fun before call => answer_exits_iff indicator call (app before), ?_, ?_⟩
  · intro before call later
    have hlength : before.length = (visits before).length :=
      (App.visits_length indicator before start).symm
    simp only [visits] at hlength ⊢
    rw [visits_append, hlength, List.getElem?_append_right (Nat.le_refl _), Nat.sub_self]
    rfl
  · intro calls
    rw [(hheld calls).1]
    exact ⟨rfl, length_iconsOf_attempts indicator.settings calls⟩
  · intro before hbuilt
    refine ⟨fun later => ?_, answer_resumed_of_built indicator hbuilt⟩
    rw [(hheld before).1] at hbuilt
    have hsame := attempts_append_of_built indicator.settings hbuilt later
    refine ⟨?_, hsame⟩
    rw [(hheld _).1, (hheld before).1]
    exact congrArg iconsOf hsame
  · intro toolkit calls hnormal
    rw [result_of_normal hnormal, (hheld calls).2, ← failuresOf_eq_nil_iff,
      ← List.getLast?_eq_none_iff]
    cases (failuresOf (outcomes calls)).getLast? with
    | none => simp
    | some error => simp
  · intro toolkit world wakes hloop run
    obtain ⟨made, hmade, hvisits⟩ := exists_visits_eq_untilExit indicator
      (.resumed world toolkit.answers :: wakes.flatMap (toolkit.callsOf world)) start
    refine ⟨made, hmade, ?_⟩
    simp only [run, Toolkit.run, hloop, if_true]
    rw [hvisits]
    exact ⟨rfl, rfl⟩

/-- An attempt that fails, one that succeeds and a quit id: the loop has asked to
exit twice, there is one icon, and the run ends with the failure. -/
example :
    let world : World := ⟨[], Path.ofText "/", ⟨[]⟩, none, fun _ => none⟩
    let indicator : Indicator Recording := ⟨.default, none, Launcher.scripted⟩
    let start := App.start (⟨[], []⟩ : Recording)
    let visits := App.visits indicator [.resumed world ⟨some 1, none, none⟩,
      .resumed world ⟨none, none, none⟩, .aboutToWait ⟨["quit"], []⟩] start
    visits.map (·.exits) = [true, false, true] ∧ (appAfter visits start).icons.length = 1 ∧
      (appAfter visits start).failure = some .menu := by
  decide

end Runs

end TrayIndicator.Tray
