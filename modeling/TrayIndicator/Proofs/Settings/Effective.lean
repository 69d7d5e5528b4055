import TrayIndicator.Proofs.Settings.FileValues
import TrayIndicator.CommandLine.Basic

/-!
# The settings of a run

The settings of a run lie in three layers: the defaults, the values of the
settings file if it is there, and the values of the command line. A run has no
settings if the file cannot be read, is not of the format, leaves a required
setting blank, or the command line does; the first of these is told. A blank
value of the file counts even where the command line replaces it.
-/

namespace TrayIndicator.Settings

open Toml

/-- The document of the settings file, if the file is there and has one. -/
def fileDocument? (world : World) (path : Path) : Option Document :=
  if world.exists? path then
    match world.readText path with
    | .ok text => Document.read text.toList
    | .error _ => none
  else none

/-- What the settings file says; nothing if it is not there. -/
def fileValues (world : World) (path : Path) : FileValues :=
  match fileDocument? world path with
  | some document => .ofEntries document.entries
  | none => .none

/-- The defaults with the values of the file laid over them. -/
def fileLayer (world : World) (path : Path) : Settings :=
  (fileValues world path).laidOver { default with path }

/-- Why the file cannot be read, if it is there. -/
def readFailure? (world : World) (path : Path) : Option SettingsError :=
  if world.exists? path then
    match world.readText path with
    | .ok _ => none
    | .error cause => some (.unreadable path cause)
  else none

/-- Why the text of the file spells no settings, if it can be read: it is not of
the format, or its first entry that does not suit its setting. -/
def parseFailure? (world : World) (path : Path) : Option SettingsError :=
  if world.exists? path then
    match world.readText path with
    | .ok text =>
      match Document.read text.toList with
      | none => some .malformed
      | some document => (misfit? document.entries).map fun entry =>
        .wrongType (document.complaint entry.2 (wantedOf entry.1))
    | .error _ => none
  else none

/-- The first blank one of the log file, the opener and the companion. -/
def blankFailure? (settings : Settings) : Option SettingsError :=
  if Text.isBlank settings.logFile then some (.missing .logFile)
  else if Text.isBlank settings.opener then some (.missing .opener)
  else if Text.isBlank settings.companion then some (.missing .companion)
  else none

/-- The first failure on the way to the settings of a run. -/
def firstFailure? (world : World) (path : Path) (given : Overrides) : Option SettingsError :=
  (readFailure? world path).or <| (parseFailure? world path).or <|
    (fileLayer world path).blankFailure?.or <|
      ((fileLayer world path).layered given).blankFailure?

/-- The required settings are tested in their order. -/
theorem map_missing?_missing (settings : Settings) :
    settings.missing?.map .missing = settings.blankFailure? := by
  unfold missing? blankFailure?
  cases hlog : Text.isBlank settings.logFile <;>
    cases hopener : Text.isBlank settings.opener <;>
      cases hcompanion : Text.isBlank settings.companion <;>
        simp [required, hlog, hopener, hcompanion]

/-- Checking settings fails with the first blank required one. -/
theorem checked_eq (settings : Settings) :
    settings.checked =
      match settings.blankFailure? with
      | some error => .error error
      | none => .ok settings := by
  rw [checked, ← map_missing?_missing]
  cases settings.missing? <;> rfl

/-- Settings pass the check exactly when no required one is blank. -/
theorem checked_isOk_iff (settings : Settings) :
    (∃ result, settings.checked = .ok result) ↔ settings.missing? = none := by
  unfold checked
  cases settings.missing? <;> simp

/-- The place of the settings file is never what is blank. -/
theorem blankFailure?_path (settings : Settings) (path : Path) :
    { settings with path }.blankFailure? = settings.blankFailure? := rfl

/-- The defaults leave nothing blank, wherever their file would be. -/
theorem blankFailure?_default (path : Path) : { default with path }.blankFailure? = none := by
  rw [blankFailure?_path]
  decide

/-- Without a file nothing lies over the defaults. -/
theorem fileLayer_of_absent {world : World} {path : Path} (h : world.exists? path = false) :
    fileLayer world path = { default with path } := by
  have hdocument : fileDocument? world path = none := by
    rw [fileDocument?, h, if_neg Bool.false_ne_true]
  rw [fileLayer, fileValues, hdocument, FileValues.none_laidOver]

/-- The file layer of a run: it fails with the first failure of the file. -/
theorem loadOrDefault_eq (world : World) (path : Path) :
    (loadOrDefault world path).1 =
      match (readFailure? world path).or <| (parseFailure? world path).or <|
        (fileLayer world path).blankFailure? with
      | some error => .error error
      | none => .ok (fileLayer world path) := by
  cases hexists : world.exists? path with
  | false =>
    rw [fileLayer_of_absent hexists]
    simp [loadOrDefault_eq_ite, readFailure?, parseFailure?, hexists, blankFailure?_default]
  | true =>
    have hlayer : fileLayer world path = { fileLayer world path with path } := rfl
    simp only [loadOrDefault_eq_ite, loadFrom, ofReading, readFailure?, parseFailure?, hexists,
      if_pos]
    cases htext : world.readText path with
    | error cause => rfl
    | ok text =>
      simp only [parse_eq, Option.none_or]
      cases hread : Document.read text.toList with
      | none => rfl
      | some document =>
        have hvalues : fileValues world path = .ofEntries document.entries := by
          simp [fileValues, fileDocument?, hexists, htext, hread]
        cases hmisfit : misfit? document.entries with
        | some entry => simp [hmisfit, bind, Except.bind]
        | none =>
          have hblank : ((FileValues.ofEntries document.entries).laidOver default).blankFailure? =
              (fileLayer world path).blankFailure? := by
            rw [fileLayer, hvalues]
            rfl
          simp only [hmisfit, Option.map_none, Option.none_or, checked_eq, hblank]
          cases (fileLayer world path).blankFailure? with
          | some error => rfl
          | none =>
            simp only [fileLayer, hvalues]
            rfl

/-- The settings of a run are the two layers over the defaults, unless there is
a failure; then the first one is told. -/
theorem effective_eq (world : World) (path : Path) (given : Overrides) :
    (effective world path given).1 =
      match firstFailure? world path given with
      | some error => .error error
      | none => .ok ((fileLayer world path).layered given) := by
  have hload := loadOrDefault_eq world path
  have hfirst : firstFailure? world path given =
      ((readFailure? world path).or <| (parseFailure? world path).or <|
        (fileLayer world path).blankFailure?).or
          ((fileLayer world path).layered given).blankFailure? := by
    simp only [firstFailure?, Option.or_assoc]
  rw [hfirst]
  unfold effective
  split
  · next settings events hevents =>
    rw [hevents] at hload
    split at hload
    · cases hload
    · next hnone =>
      cases hload
      rw [hnone, Option.none_or]
      exact checked_eq _
  · next error events hevents =>
    rw [hevents] at hload
    split at hload
    · next failure hsome =>
      cases hload
      rw [hsome]
      rfl
    · cases hload

/-- A settings file that can be read is there. -/
theorem exists?_of_readText {world : World} {path : Path} {text : String}
    (h : world.readText path = .ok text) : world.exists? path = true := by
  unfold World.readText Files.Tree.readText at h
  split at h
  · next content hread => exact Files.Tree.exists_of_read hread
  · cases h

/-- A run has settings exactly when its file is absent or is parsed on its own,
and no required setting is blank once the values given are laid over. -/
theorem effective_isOk_iff (world : World) (path : Path) (given : Overrides) :
    (∃ settings, (effective world path given).1 = .ok settings) ↔
      ∃ base, (world.exists? path = false ∧ base = { default with path } ∨
          ∃ text, world.readText path = .ok text ∧ Settings.parse text = .ok base) ∧
        (base.layered given).missing? = none := by
  cases hexists : world.exists? path with
  | false =>
    have hunread : ∀ text, world.readText path ≠ .ok text := by
      intro text htext
      rw [exists?_of_readText htext] at hexists
      cases hexists
    simp [effective, loadOrDefault_eq_ite, hexists, hunread, withOverrides, checked_isOk_iff]
  | true =>
    cases htext : world.readText path with
    | error cause => simp [effective, loadOrDefault_eq_ite, loadFrom, ofReading, hexists, htext]
    | ok text =>
      cases hparse : parse text with
      | error error =>
        simp [effective, loadOrDefault_eq_ite, loadFrom, ofReading, hexists, htext, hparse, bind,
          Except.bind]
      | ok base =>
        have hpath : ({ base with path }.layered given).missing? = (base.layered given).missing? :=
          rfl
        simp [effective, loadOrDefault_eq_ite, loadFrom, ofReading, hexists, htext, hparse, bind,
          Except.bind, withOverrides, checked_isOk_iff, hpath]

end TrayIndicator.Settings

namespace TrayIndicator.CommandLine.Choice

open Settings

/-- The settings of a run, for every command line and every world. There are
some exactly when the file is absent or is parsed on its own and the values of
the command line leave no required setting blank. Each setting is then that of
the command line, else that of the file, else the default, except that the
tilde is expanded when either asks for it. Otherwise the first failure is told:
of reading, of parsing, a blank value under the command line, and one with it. -/
theorem load_layers (choice : Choice) (world : World) :
    let path := choice.configPath world
    let file := fileValues world path
    let given := choice.overrides
    ((∃ settings, (choice.load world).1 = .ok settings) ↔
      ∃ base, (world.exists? path = false ∧ base = { Settings.default with path } ∨
          ∃ text, world.readText path = .ok text ∧ Settings.parse text = .ok base) ∧
        (base.layered given).missing? = none) ∧
    (∀ settings, (choice.load world).1 = .ok settings →
      settings.path = path ∧
      settings.iconPath = given.iconPath.getD (file.iconPath.getD Settings.default.iconPath) ∧
      settings.logFile = given.logFile.getD (file.logFile.getD Settings.default.logFile) ∧
      settings.opener = given.opener.getD (file.opener.getD Settings.default.opener) ∧
      settings.companion = given.companion.getD (file.companion.getD Settings.default.companion) ∧
      settings.tooltip = file.tooltip.getD Settings.default.tooltip ∧
      settings.expandHome =
        (given.expandHome || file.expandHome.getD Settings.default.expandHome)) ∧
    (∀ error, (choice.load world).1 = .error error ↔
      (readFailure? world path).or ((parseFailure? world path).or
        ((fileLayer world path).blankFailure?.or
          ((fileLayer world path).layered given).blankFailure?)) = some error) ∧
    (∀ error, readFailure? world path = none → parseFailure? world path = none →
      (fileLayer world path).blankFailure? = some error →
        (choice.load world).1 = .error error) := by
  intro path file given
  have heffective : (choice.load world).1 = _ := effective_eq world path given
  refine ⟨effective_isOk_iff world path given, ?_, ?_, ?_⟩
  · intro settings hload
    rw [heffective] at hload
    split at hload
    · cases hload
    · cases hload
      exact ⟨rfl, rfl, rfl, rfl, rfl, rfl, Bool.or_comm _ _⟩
  · intro error
    rw [heffective]
    change _ ↔ firstFailure? world path given = some error
    cases firstFailure? world path given <;> simp
  · intro error hread hparse hblank
    rw [heffective, firstFailure?, hread, hparse, hblank]
    rfl

end TrayIndicator.CommandLine.Choice
