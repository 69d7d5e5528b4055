import TrayIndicator.Doctor
import TrayIndicator.Proofs.Indicator.Dispatch

/-!
# What the health check reports

The health check ends in failure exactly if one of the two programs does not
resolve, and counts those that do not. What it says of the icon and of the log
file is what the tray does with them in the same world: the icon it shows, the
error it logs, and the target it hands to the opener.

That a program that resolves can be started is not shown here.
-/

namespace TrayIndicator.Doctor

/-- Does a program resolve? One of the paths at which it is looked for leads to a
file that may be run. -/
def Resolves (world : World) (program : String) : Prop :=
  ∃ path ∈ candidates world program, world.files.isProgram world.here path = true

instance (world : World) (program : String) : Decidable (Resolves world program) :=
  inferInstanceAs (Decidable (∃ path ∈ candidates world program,
    world.files.isProgram world.here path = true))

/-- How many of the two programs do not resolve. A name they share counts twice. -/
def unresolved (world : World) (settings : Settings) : Nat :=
  [settings.opener, settings.companion].countP fun program => ¬ Resolves world program

/-- The line that ends the report of a check without failure. -/
def closing : String := "All required checks passed.\n"

/-- Does the tray show the image of the icon file itself? -/
def ShowsOwnImage (world : World) (path : Path) : Prop :=
  ∃ file, world.read path = .ok file ∧
    Icon.decode file = .ok (Icon.readOrPlaceholder world path).1

/-- Is the log file handed on with a leading tilde? -/
def KeepsTilde (settings : Settings) : Prop :=
  settings.expandHome = false ∧ settings.logFile.toList.head? = some '~'

section Checks

variable (world : World)

/-- A program is found exactly if it resolves. -/
theorem isSome_findProgram (program : String) :
    (findProgram world program).isSome = true ↔ Resolves world program :=
  List.find?_isSome

/-- The check of the settings file never complains. -/
theorem checkSettingsFile_status (path : Path) : (checkSettingsFile world path).status = .ok := rfl

/-- The check of a program finds an error exactly if it does not resolve. -/
theorem checkProgram_status (label program : String) :
    (checkProgram world label program).status =
      if Resolves world program then .ok else .error := by
  have hfound := isSome_findProgram world program
  rw [checkProgram]
  cases hprogram : findProgram world program with
  | none =>
    rw [hprogram] at hfound
    rw [if_neg fun h => Bool.false_ne_true (hfound.mpr h)]
  | some path =>
    rw [hprogram] at hfound
    rw [if_pos (hfound.mp rfl)]

/-- The check of the icon agrees with the tray: it is content exactly if the tray
shows the file's own image, and else repeats the error that the tray logs. -/
theorem checkIcon_agrees (path : Path) :
    let check := checkIcon world path
    let loaded := Icon.readOrPlaceholder world path
    (check.status = .ok ↔ ShowsOwnImage world path) ∧
      (check.status ≠ .ok → ∃ event text, loaded = (Icon.placeholder, [event]) ∧
        event.fields.lookup "error" = some text ∧
          check = ⟨.warning, "Tray icon", text ++ " (placeholder will be used)"⟩) := by
  have hdecode {file : List UInt8} (hfile : world.read path = .ok file) :
      Icon.read world path = Icon.decode file (world.decoderSays file) := by
    rw [Icon.read, hfile]
  cases hread : Icon.read world path with
  | ok image =>
    have hown : ShowsOwnImage world path := by
      cases hfile : world.read path with
      | ok file =>
        refine ⟨file, hfile, (Icon.decode_eq_ok_iff (world.decoderSays file)).mp ?_⟩
        rw [← hdecode hfile, Icon.readOrPlaceholder, hread]
      | error cause =>
        rw [Icon.read, hfile] at hread
        cases hread
    simp [checkIcon, hread, hown]
  | error error =>
    have hother : ¬ ShowsOwnImage world path := by
      rintro ⟨file, hfile, himage⟩
      rw [← Icon.decode_eq_ok_iff (world.decoderSays file), ← hdecode hfile, hread] at himage
      cases himage
    simp only [checkIcon, Icon.readOrPlaceholder, hread, hother]
    exact ⟨by simp, fun _ => ⟨_, error.message, rfl, rfl, rfl⟩⟩

/-- The check of the log file looks at the target, and warns at most. -/
theorem checkLogFile_status (settings : Settings) :
    let check := checkLogFile world settings
    (check.status = .ok ↔
      world.exists? (settings.logTarget world.home?) = true ∧ ¬ KeepsTilde settings) ∧
      check.status ≠ .error := by
  have htilde : (!settings.expandHome && settings.logFile.toList.head? == some '~') = true ↔
      KeepsTilde settings := by
    rw [Bool.and_eq_true, Bool.not_eq_true', beq_iff_eq, KeepsTilde]
  by_cases hkeeps : KeepsTilde settings
  · simp [checkLogFile, htilde.mpr hkeeps, hkeeps]
  · simp only [checkLogFile, if_neg fun h => hkeeps (htilde.mp h)]
    by_cases hexists : world.exists? (settings.logTarget world.home?) = true
    · simp [hexists, hkeeps]
    · simp [hexists]

/-- The errors that are counted are the programs that do not resolve. -/
theorem failures_checks (settings : Settings) :
    failures (checks world settings) = unresolved world settings := by
  have hicon : (checkIcon world settings.iconPath).status ≠ .error := by
    rw [checkIcon]
    cases Icon.read world settings.iconPath <;> simp
  have hlog := (checkLogFile_status world settings).2
  have hprogram (label program : String) :
      (checkProgram world label program).status = .error ↔ ¬ Resolves world program := by
    rw [checkProgram_status]
    split <;> simp [*]
  simp only [failures, checks, unresolved, ← List.countP_eq_length_filter, List.countP_cons,
    List.countP_nil, checkSettingsFile_status, hicon, hlog, hprogram]
  simp

end Checks

section Report

variable (world : World) (settings : Settings)

/-- The failure counts the programs that do not resolve. -/
theorem run_failure :
    (run world settings).2 = if unresolved world settings = 0 then none
      else some ⟨toString (unresolved world settings) ++ " check(s) failed", []⟩ := by
  simp only [run, failures_checks]
  split <;> rfl

/-- The report is the heading, a line for each check and an empty line, and then
the closing line if there is no failure. -/
theorem run_report :
    (run world settings).1 = heading ++ String.join ((checks world settings).map Check.line) ++
      "\n" ++ if unresolved world settings = 0 then closing else "" := by
  simp only [run, failures_checks]
  split
  · rfl
  · rw [String.append_empty]

/-- A report without the closing line ends with an empty line. -/
theorem exists_lines_eq :
    ∃ front, heading ++ String.join ((checks world settings).map Check.line) ++ "\n" =
      front ++ "\n\n" := by
  -- the last line brings the first of the two breaks
  let last := checkLogFile world settings
  let others := (checks world settings).dropLast
  have hchecks : checks world settings = others ++ [last] := rfl
  have hbreaks : "\n\n" = "\n" ++ "\n" := by decide
  refine ⟨heading ++ String.join (others.map Check.line) ++
    (last.status.mark ++ " " ++ last.label ++ ": " ++ last.detail), ?_⟩
  rw [hchecks, hbreaks, List.map_append, String.join_append, List.map_singleton]
  simp only [String.join_cons, String.join_nil, String.append_empty, Check.line,
    String.append_assoc]

/-- The report ends with the closing line exactly if there is no failure. -/
theorem ends_with_closing_iff :
    (∃ before, (run world settings).1 = before ++ closing) ↔ (run world settings).2 = none := by
  rw [run_failure, run_report]
  by_cases hnone : unresolved world settings = 0
  · simp only [if_pos hnone, iff_true]
    exact ⟨_, rfl⟩
  · simp only [if_neg hnone, String.append_empty, reduceCtorEq, iff_false]
    rintro ⟨before, hbefore⟩
    obtain ⟨front, hfront⟩ := exists_lines_eq world settings
    rw [hfront] at hbefore
    -- both texts end with two characters, which differ
    have hclosing : closing = "All required checks passed" ++ ".\n" := by decide
    rw [hclosing, ← String.append_assoc] at hbefore
    have hlists := congrArg String.toList hbefore
    rw [String.toList_append, String.toList_append] at hlists
    exact absurd (List.append_inj_right' hlists rfl) (by decide)

/-- Where both programs resolve the check succeeds, though there is no icon and no log file. -/
example :
    let files : Files.Tree := ⟨[([Text.bytes "bin", Text.bytes "open"], .file [] 0o755),
      ([Text.bytes "bin", Text.bytes "gui"], .file [] 0o755), ([Text.bytes "bin"], .directory)]⟩
    let world : World :=
      ⟨[("PATH", Text.bytes "/bin")], Path.ofText "/", files, none, fun _ => none⟩
    let settings := { Settings.default with opener := "open", companion := "gui" }
    Resolves world settings.opener ∧ Resolves world settings.companion ∧
      (run world settings).2 = none := by
  intro files world settings
  refine ⟨(isSome_findProgram _ _).mp (by cbv), (isSome_findProgram _ _).mp (by cbv), ?_⟩
  rw [run_failure]
  cbv

end Report

end TrayIndicator.Doctor
