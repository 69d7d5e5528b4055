import Mathlib
import TrayIndicator.Proofs.Files.Lookup
import TrayIndicator.Proofs.Program.Stages
import TrayIndicator.Proofs.Settings.Effective
import TrayIndicator.Proofs.Text.AsciiBytes
import TrayIndicator.Proofs.Tray.Requests

/-!
# Settings come first

Nothing is started and nothing is shown before the settings of a run are there. A
run without settings tells why and ends. A run with settings asks for nothing but
what they name, and they name something.

That a command leaves the world as it was holds where its standard streams work. A
print that fails is a crash, of which a report is written.
-/

namespace TrayIndicator

/-- A text that is not empty spells a path that is not. -/
theorem Path.ofText_ne_empty {text : String} (h : text ≠ "") : Path.ofText text ≠ Path.empty := by
  intro hempty
  exact h (Text.bytes_injective (congrArg Path.bytes hempty))

/-- What continues a path that is not empty is not empty. -/
theorem Path.join_ne_empty {base : Path} (h : base ≠ Path.empty) (rest : Path) :
    base.join rest ≠ Path.empty := by
  have hbase : base.bytes ≠ [] := fun hnone => h (congrArg Path.mk hnone)
  exact fun hempty => join_bytes_ne_nil hbase rest (congrArg Path.bytes hempty)

namespace Settings

/-- No required setting is blank if none is the first one that is. -/
theorem isBlank_eq_false_of_blankFailure? {settings : Settings}
    (h : settings.blankFailure? = none) (setting : RequiredSetting) :
    Text.isBlank (settings.required setting) = false := by
  rw [← map_missing?_missing, Option.map_eq_none_iff, missing?, List.find?_eq_none] at h
  rw [← Bool.not_eq_true]
  apply h
  cases setting <;> decide

/-- What the opener is given is not empty, as the log file is not blank and the home
directory, if there is one, is not empty. -/
theorem logTarget_ne_empty {settings : Settings} (hlog : Text.isBlank settings.logFile = false)
    {home : Option Path} (hhome : home ≠ some Path.empty) :
    settings.logTarget home ≠ Path.empty := by
  have htext : settings.logFile ≠ "" := by
    intro hempty
    rw [hempty, Text.isBlank_empty] at hlog
    cases hlog
  have hwritten := Path.ofText_ne_empty htext
  unfold logTarget
  split
  · unfold TrayIndicator.expandHome
    split
    · exact hwritten
    · next home =>
      have hplace : home ≠ Path.empty := fun h => hhome (congrArg some h)
      split
      · exact hplace
      · exact Path.join_ne_empty hplace _
      · exact hwritten
  · exact hwritten

end Settings

/-- Loaded settings have no required setting that is blank. -/
theorem CommandLine.Choice.isBlank_of_load {choice : Choice} {world : World}
    {settings : Settings} (h : (choice.load world).1 = .ok settings) (setting : RequiredSetting) :
    Text.isBlank (settings.required setting) = false := by
  have heffective : (choice.load world).1 = _ :=
    Settings.effective_eq world (choice.configPath world) choice.overrides
  rw [h] at heffective
  split at heffective
  · cases heffective
  · next hfirst =>
    cases heffective
    rw [Settings.firstFailure?, Option.or_eq_none_iff, Option.or_eq_none_iff,
      Option.or_eq_none_iff] at hfirst
    exact Settings.isBlank_eq_false_of_blankFailure? hfirst.2.2.2 setting

namespace Program

open CommandLine Machine Tray

section Gate

variable (world : World) (arguments : List (List UInt8)) (moment : Moment)

/-- A run that fails before anything is started or shown, whatever the shell calls. -/
structure Refused : Prop where
  /-- It exits with 1. -/
  exitCode (calls : List BusCall) : (run world arguments moment calls).exitCode = some 1
  /-- Nothing is written to the standard output. -/
  output (calls : List BusCall) : (run world arguments moment calls).output = ""
  /-- The launcher is asked for nothing. -/
  calls (calls : List BusCall) : (run world arguments moment calls).calls = []
  /-- No item is there to answer. -/
  replies (calls : List BusCall) : (run world arguments moment calls).replies = []
  /-- Calls make no difference. -/
  alike (calls others : List BusCall) :
    run world arguments moment calls = run world arguments moment others

/-- Calls of a launcher that settings and a target of the opener account for. -/
def Named (settings : Settings) (target : Path) (calls : List Call) : Prop :=
  ∀ call ∈ calls, call = .start (.open settings.opener target) ∨
    call = .start (.spawn settings.companion) ∨ call = .reap

/-- What the indicator of settings makes is accounted for by them. -/
theorem named_of_makes {σ : Type} {settings : Settings} {home : Option Path}
    (launcher : Launcher σ) {calls : List Call}
    (h : ∀ call ∈ calls, (⟨settings, home, launcher⟩ : Indicator σ).Makes call) :
    Named settings (settings.logTarget home) calls := by
  intro call hcall
  have hmakes := h call hcall
  cases call with
  | start request =>
    rcases hmakes with rfl | rfl
    · exact .inl rfl
    · exact .inr (.inl rfl)
  | reap => exact .inr (.inr rfl)

section Choice

variable {world arguments} {choice : Choice}

/-- A run that cannot get ready is refused. -/
theorem refused_of_not_ready (hparse : CommandLine.parse world arguments = .ok choice)
    {failure : Failure} (hready : ready world choice moment.day = .error failure) :
    Refused world arguments moment := by
  have hrun (calls : List BusCall) : run world arguments moment calls =
      ⟨some 1, "", complaint failure, [], [], world⟩ := by
    rw [run_eq world choice moment calls hparse, hready]
  exact ⟨fun calls => by rw [hrun], fun calls => by rw [hrun], fun calls => by rw [hrun],
    fun calls => by rw [hrun], fun calls others => by rw [hrun, hrun]⟩

/-- A run without settings is refused, and its log tells of no more than the
beginning and the loading. -/
theorem refused_of_no_settings (hparse : CommandLine.parse world arguments = .ok choice)
    {start : World} (hready : ready world choice moment.day = .ok start)
    {error : SettingsError} (herror : (choice.load start).1 = .error error) :
    Refused world arguments moment ∧
      ∀ calls, (run world arguments moment calls).world = if choice.runsTray then
        logged start (filterOf world choice) moment (startEvent :: (choice.load start).2)
      else start := by
  have hrun (calls : List BusCall) := run_eq world choice moment calls hparse
  simp only [hready] at hrun
  cases htray : choice.runsTray with
  | true =>
    simp only [htray, if_true, runLoggedTray_of_error start choice _ moment _ herror] at hrun
    exact ⟨⟨fun calls => by rw [hrun], fun calls => by rw [hrun], fun calls => by rw [hrun],
      fun calls => by rw [hrun], fun calls others => by rw [hrun, hrun]⟩,
      fun calls => by rw [hrun, if_pos rfl]⟩
  | false =>
    simp only [htray, Bool.false_eq_true, if_false] at hrun
    obtain ⟨hexit, houtput⟩ := runCommand_of_error start choice (filterOf world choice) moment
      herror (choice.command.getD .tray)
    exact ⟨⟨fun calls => by rw [hrun, hexit], fun calls => by rw [hrun, houtput],
      fun calls => by rw [hrun]; rfl, fun calls => by rw [hrun]; rfl,
      fun calls others => by rw [hrun, hrun]⟩,
      fun calls => by rw [hrun, if_neg Bool.false_ne_true]; rfl⟩

/-- A command other than the tray starts nothing and leaves the world as it was. -/
theorem run_of_command (hparse : CommandLine.parse world arguments = .ok choice)
    (hcommand : choice.runsTray = false) (calls : List BusCall) :
    let outcome := run world arguments moment calls
    outcome.calls = [] ∧ outcome.replies = [] ∧ outcome.world = world := by
  have hready : ready world choice moment.day = .ok world := by
    rw [ready, hcommand, if_neg Bool.false_ne_true]
  rw [run_eq world choice moment calls hparse, hready]
  simp only [hcommand, Bool.false_eq_true, if_false]
  exact ⟨rfl, rfl, rfl⟩

/-- A run with settings asks for nothing but what they name. -/
theorem named_of_settings (hparse : CommandLine.parse world arguments = .ok choice)
    {start : World} (hready : ready world choice moment.day = .ok start) {settings : Settings}
    (hload : (choice.load start).1 = .ok settings) (calls : List BusCall) :
    Named settings (settings.logTarget world.home?) (run world arguments moment calls).calls := by
  cases htray : choice.runsTray with
  | false =>
    rw [(run_of_command moment hparse htray calls).1]
    exact fun call hcall => nomatch hcall
  | true =>
    rw [run_eq world choice moment calls hparse, hready]
    simp only [htray, if_true]
    rw [(runLoggedTray_of_ok start choice _ moment calls hload).2, runTray_calls,
      home?_of_ready world choice hready]
    exact named_of_makes Launcher.processes fun call => BusCall.makes_of_mem_asked _

end Choice

/-- The settings come first, whatever the world, the command and the calls of the
shell. A run that cannot open its log or has no settings is refused; the log of the
latter tells of the beginning and the loading alone. A run with settings asks for
nothing but their opener with their target, their companion, and collections of
children: the run itself does, and so does every run of a published item and every
run of an event loop, with any launcher. The names of the two programs are not blank
then, and the target is not empty. The other commands start nothing and leave the
world as it was. -/
theorem settings_come_first {choice : Choice}
    (hparse : CommandLine.parse world arguments = .ok choice)
    {σ : Type} (launcher : Launcher σ) (state : σ) :
    (∀ failure, ready world choice moment.day = .error failure →
      Refused world arguments moment) ∧
    (∀ start error, ready world choice moment.day = .ok start →
      (choice.load start).1 = .error error →
        Refused world arguments moment ∧
          ∀ calls, (run world arguments moment calls).world = if choice.runsTray then
            logged start (filterOf world choice) moment (startEvent :: (choice.load start).2)
          else start) ∧
    (∀ start settings, ready world choice moment.day = .ok start →
      (choice.load start).1 = .ok settings →
        let target := settings.logTarget world.home?
        let indicator : Indicator σ := ⟨settings, world.home?, launcher⟩
        let published := (LiveTray.publish start indicator.noting ([], state)).state
        (∀ calls, Named settings target (run world arguments moment calls).calls) ∧
          (∀ events, Named settings target (published.run events).state.state.launcher.1) ∧
          (∀ loopCalls, ∀ visit ∈ App.visits indicator.noting loopCalls (App.start ([], state)),
            Named settings target visit.app.launcher.1) ∧
          Text.isBlank settings.opener = false ∧ Text.isBlank settings.companion = false ∧
          (world.home? ≠ some Path.empty → target ≠ Path.empty)) ∧
    (choice.runsTray = false → ∀ calls,
      let outcome := run world arguments moment calls
      outcome.calls = [] ∧ outcome.replies = [] ∧ outcome.world = world) := by
  refine ⟨fun failure hready => refused_of_not_ready moment hparse hready,
    fun start error hready herror => refused_of_no_settings moment hparse hready herror, ?_,
    fun hcommand => run_of_command moment hparse hcommand⟩
  intro start settings hready hload target indicator published
  have hblank := CommandLine.Choice.isBlank_of_load hload
  refine ⟨named_of_settings moment hparse hready hload, ?_, ?_, hblank .opener,
    hblank .companion, Settings.logTarget_ne_empty (hblank .logFile)⟩
  · intro events
    refine named_of_makes launcher fun call hcall => ?_
    rcases LiveTray.makes_of_mem_run indicator rfl hcall with hnone | hmakes
    · cases hnone
    · exact hmakes
  · intro loopCalls visit hvisit
    refine named_of_makes launcher fun call hcall => ?_
    rcases makes_of_mem_visits indicator hvisit hcall with hnone | hmakes
    · cases hnone
    · exact hmakes

/-- The tray is told to use no opener: its log is opened, and then the run is
refused. -/
theorem settings_come_first_without_opener :
    let world : World := ⟨[], Path.ofText "/", ⟨[]⟩, none, fun _ => none⟩
    let arguments := [Text.bytes "--opener="]
    let moment : Moment := ⟨"", "2026-07-01"⟩
    let choice : Choice := ⟨.info, none, ⟨none, none, some "", none, false⟩, none⟩
    CommandLine.parse world arguments = .ok choice ∧
      (∃ start, ready world choice moment.day = .ok start ∧
        (choice.load start).1 = .error (.missing .opener)) ∧
      Refused world arguments moment := by
  intro world arguments moment choice
  have hparse : CommandLine.parse world arguments = .ok choice := rfl
  obtain ⟨start, hready, herror⟩ : ∃ start, ready world choice moment.day = .ok start ∧
      (choice.load start).1 = .error (.missing .opener) := ⟨_, by cbv, by cbv⟩
  have hgate := settings_come_first world arguments moment hparse Launcher.scripted ⟨[], []⟩
  exact ⟨hparse, ⟨start, hready, herror⟩, (hgate.2.1 start _ hready herror).1⟩

end Gate

end Program

end TrayIndicator
