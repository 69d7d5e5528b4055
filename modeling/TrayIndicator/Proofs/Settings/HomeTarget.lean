import TrayIndicator.Proofs.Files.Lookup
import TrayIndicator.Proofs.Text.AsciiBytes
import TrayIndicator.Settings.Home

/-!
# The log file below the home directory

What the opener is given is the log file as it is written, unless its leading tilde is to be
expanded and there is a home directory. Then it is the home directory, continued with what
follows the tilde: what it names is what the home directory names and then what follows.
This holds only where no second slash follows the first: what follows is an absolute path
then, and replaces the home directory.
-/

namespace TrayIndicator

open TrayIndicator.Path

/-- Does a text begin with a tilde that stands alone in its step? -/
def LeadsHome (text : String) : Prop := text = "~" ∨ ∃ rest, text = "~/" ++ rest

/-- A tilde alone is the home directory. -/
theorem expandHome_tilde (directory : Path) : expandHome (some directory) "~" = directory := rfl

/-- What follows the tilde continues the home directory. -/
theorem expandHome_below (directory : Path) (rest : String) :
    expandHome (some directory) ("~/" ++ rest) = directory.joinText rest := by
  have htext : ("~/" ++ rest).toList = '~' :: '/' :: rest.toList := by
    rw [String.toList_append]
    rfl
  simp only [expandHome, htext, String.ofList_toList]

/-- A text that does not lead home stays as it is written. -/
theorem expandHome_of_not_leadsHome {text : String} (h : ¬ LeadsHome text)
    (home : Option Path) : expandHome home text = ofText text := by
  unfold expandHome
  split
  · rfl
  · split
    · next htilde => exact absurd (.inl (String.toList_inj.mp htilde)) h
    · next rest hbelow =>
      refine absurd (.inr ⟨String.ofList rest, ?_⟩) h
      rw [← String.toList_inj, hbelow, String.toList_append]
      simp
    · rfl

/-- An absolute path is spelled by no text that leads home. -/
theorem not_leadsHome_of_isAbsolute {text : String} (h : (ofText text).isAbsolute = true) :
    ¬ LeadsHome text := by
  rw [isAbsolute_ofText_iff] at h
  rintro (rfl | ⟨rest, rfl⟩)
  · exact absurd h (by decide)
  · rw [String.toList_append] at h
    cases h

/-- What follows a tilde and one slash names its place below the home directory. -/
theorem named_expandHome {directory : Path} (habsolute : directory.isAbsolute = true)
    {rest : String} (hrest : rest.toList.head? ≠ some '/') :
    named (expandHome (some directory) ("~/" ++ rest)).bytes =
      named directory.bytes ++ named (Text.bytes rest) := by
  have hrelative : (ofText rest).isAbsolute = false :=
    Bool.eq_false_iff.mpr (mt isAbsolute_ofText_iff.mp hrest)
  rw [expandHome_below]
  exact named_join hrelative (bytes_ne_nil habsolute)

/-- What follows a tilde and two slashes replaces the home directory. -/
theorem expandHome_of_second_slash (directory : Path) {rest : String}
    (hrest : rest.toList.head? = some '/') :
    expandHome (some directory) ("~/" ++ rest) = ofText rest := by
  rw [expandHome_below]
  exact join_absolute (isAbsolute_ofText_iff.mpr hrest)

/-- Expanding a text that leads home gives an absolute path. -/
theorem isAbsolute_expandHome {directory : Path} (habsolute : directory.isAbsolute = true)
    {text : String} (h : LeadsHome text) :
    (expandHome (some directory) text).isAbsolute = true := by
  obtain rfl | ⟨rest, rfl⟩ := h
  · exact habsolute
  · rw [expandHome_below]
    exact isAbsolute_join habsolute _

/-- What is expanded needs no expansion. -/
theorem expandHome_expanded {home : Option Path}
    (hhome : ∀ directory, home = some directory → directory.isAbsolute = true)
    {text expanded : String} (h : (expandHome home text).text? = some expanded) :
    expandHome home expanded = expandHome home text := by
  have hspelled : ofText expanded = expandHome home text := ofText_of_text? h
  by_cases hleads : LeadsHome text
  · cases home with
    | none => exact hspelled
    | some directory =>
      have habsolute := isAbsolute_expandHome (hhome directory rfl) hleads
      rw [← hspelled] at habsolute
      rw [expandHome_of_not_leadsHome (not_leadsHome_of_isAbsolute habsolute), hspelled]
  · -- the text was left alone, so it is the expanded one
    have hsame : ofText expanded = ofText text := by
      rw [hspelled, expandHome_of_not_leadsHome hleads]
    rw [Text.bytes_injective (congrArg Path.bytes hsame)]

namespace Settings

/-- What the opener is given, for every log file and every home directory. The log file
stays as it is written if nothing is to be expanded. Else a tilde alone is the home
directory, and what follows a tilde and one slash names its place below it. After a second
slash what follows is taken for itself, and so it names a place below the home directory
only if that is the root. What is given can be expanded again without change. -/
theorem log_target_below_home {home : Option Path}
    (hhome : ∀ directory, home = some directory → directory.isAbsolute = true)
    (settings : Settings) :
    (settings.expandHome = false ∨ home = none ∨ ¬ LeadsHome settings.logFile →
      settings.logTarget home = ofText settings.logFile) ∧
    (∀ directory, home = some directory → settings.expandHome = true →
      (settings.logFile = "~" → settings.logTarget home = directory) ∧
      ∀ rest, settings.logFile = "~/" ++ rest →
        (rest.toList.head? ≠ some '/' →
          named (settings.logTarget home).bytes =
              named directory.bytes ++ named (Text.bytes rest) ∧
            directory.bytes <+: (settings.logTarget home).bytes) ∧
        (rest.toList.head? = some '/' →
          settings.logTarget home = ofText rest ∧
            (named (settings.logTarget home).bytes =
                named directory.bytes ++ named (Text.bytes rest) ↔
              named directory.bytes = []))) ∧
    (∀ text, (settings.logTarget home).text? = some text →
      { settings with logFile := text }.logTarget home = settings.logTarget home) := by
  refine ⟨?_, ?_, ?_⟩
  · rintro (hoff | rfl | hplain)
    · simp [logTarget, hoff]
    · simp [logTarget, expandHome_none]
    · simp [logTarget, expandHome_of_not_leadsHome hplain]
  · rintro directory rfl hexpands
    have htarget : settings.logTarget (some directory) =
        TrayIndicator.expandHome (some directory) settings.logFile := by
      rw [logTarget, if_pos hexpands]
    have habsolute := hhome directory rfl
    refine ⟨?_, ?_⟩
    · intro htilde
      rw [htarget, htilde, expandHome_tilde]
    · intro rest hrest
      rw [htarget, hrest]
      refine ⟨?_, ?_⟩
      · intro hfirst
        have hrelative : (ofText rest).isAbsolute = false :=
          Bool.eq_false_iff.mpr (mt isAbsolute_ofText_iff.mp hfirst)
        refine ⟨named_expandHome habsolute hfirst, ?_⟩
        rw [expandHome_below]
        exact prefix_join hrelative directory
      · intro hsecond
        rw [expandHome_of_second_slash directory hsecond]
        exact ⟨rfl, List.self_eq_append_left⟩
  · intro text htext
    unfold logTarget at htext ⊢
    split
    · next hexpands =>
      rw [if_pos hexpands] at htext
      exact expandHome_expanded hhome htext
    · next hoff =>
      rw [if_neg hoff] at htext
      exact ofText_of_text? htext

/-- A log file with slashes to spare lies below the home directory, and is found there again. -/
theorem log_target_below_home_with_spare_slashes :
    let home : Path := ofText "/home/alice"
    let settings : Settings :=
      { default with logFile := "~/logs//syncrop.log/", expandHome := true }
    let target : Path := ofText "/home/alice/logs//syncrop.log/"
    home.isAbsolute = true ∧ settings.logTarget (some home) = target ∧
      named target.bytes = named home.bytes ++ named (Text.bytes "logs//syncrop.log/") ∧
      home.bytes <+: target.bytes ∧
      { settings with logFile := "/home/alice/logs//syncrop.log/" }.logTarget (some home) =
        target := by
  intro home settings target
  have habsolute : home.isAbsolute = true := by decide
  have htarget : settings.logTarget (some home) = target := by decide
  obtain ⟨-, hexpanded, hagain⟩ := log_target_below_home
    (fun directory h => by rwa [← Option.some.inj h]) settings
  obtain ⟨hnamed, hprefix⟩ := ((hexpanded home rfl rfl).2 "logs//syncrop.log/" rfl).1 (by decide)
  rw [htarget] at hnamed hprefix hagain
  exact ⟨habsolute, htarget, hnamed, hprefix, hagain _ (Text.ofBytes?_bytes _)⟩

/-- After a second slash the log file lies elsewhere: the home directory is replaced. -/
theorem log_target_after_second_slash_elsewhere :
    let home : Path := ofText "/home/alice"
    let settings : Settings :=
      { default with logFile := "~//var/log/syncrop.log", expandHome := true }
    home.isAbsolute = true ∧ settings.logFile = "~/" ++ "/var/log/syncrop.log" ∧
      settings.logTarget (some home) = ofText "/var/log/syncrop.log" ∧
      named (settings.logTarget (some home)).bytes ≠
        named home.bytes ++ named (Text.bytes "/var/log/syncrop.log") ∧
      ¬ home.bytes <+: (settings.logTarget (some home)).bytes := by
  intro home settings
  have htarget : settings.logTarget (some home) = ofText "/var/log/syncrop.log" := by decide
  rw [htarget]
  exact ⟨by decide, by decide, rfl, by decide, by decide⟩

end Settings

end TrayIndicator
