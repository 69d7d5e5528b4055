import TrayIndicator.Proofs.Settings.RoundTrip

/-!
# Written settings in other editors

An editor may save written settings with a carriage return in front of every line
feed, and with a byte order mark in front of the text. They are parsed to the same
settings, or fail with the same error: the line feeds of the values read as before, and
carriage returns that belong to values stay.

Only texts as they are written are covered. A carriage return alone ends no line.
-/

namespace TrayIndicator.Settings

open Toml

/-- A text with a carriage return in front of every line feed, and with a byte order mark
in front of it or without. -/
def windowsText (marked : Bool) (text : String) : String :=
  String.ofList ((if marked then ['\uFEFF'] else []) ++
    text.toList.flatMap fun c => if c = '\n' then ['\r', '\n'] else [c])

/-- Checking looks at no place. -/
theorem checked_without_path (settings : Settings) :
    ({ settings with path := Path.empty } : Settings).checked =
      match settings.missing? with
      | none => .ok { settings with path := Path.empty }
      | some setting => .error (.missing setting) := by
  have hmissing : ({ settings with path := Path.empty } : Settings).missing? =
      settings.missing? := rfl
  rw [checked, hmissing]
  cases settings.missing? with
  | none => rfl
  | some setting => rfl

/-- Written settings are parsed as they were meant, whichever line ends the text was given
and whether or not a byte order mark is in front of it. -/
theorem parse_windowsText_lines {settings : Settings} {iconPath : String}
    (h : settings.iconPath.text? = some iconPath) (marked : Bool) :
    parse (windowsText marked (String.ofList (settings.lines iconPath))) =
      { settings with path := Path.empty }.checked := by
  have hparse := parse_apply_lines h .returnFeed marked
  rw [windowsText, String.toList_ofList]
  exact hparse

/-- Settings whose icon's path is a text survive another editor. Their text with carriage
returns in front of its line feeds, marked or not, is parsed to what it is parsed to
itself: the same settings, without their place, or the error that names the first
required one that is blank. -/
theorem windows_text_parsed_alike (settings : Settings) :
    settings.iconPath.text?.isSome ↔ ∃ text, settings.render = .ok text ∧
      ∀ marked, parse (windowsText marked text) = parse text ∧
        parse (windowsText marked text) =
          match settings.missing? with
          | none => .ok { settings with path := Path.empty }
          | some setting => .error (.missing setting) := by
  unfold render
  cases h : settings.iconPath.text? with
  | none => simp
  | some iconPath =>
    have hwritten : parse (String.ofList (settings.lines iconPath)) =
        { settings with path := Path.empty }.checked := by
      have hparse := parse_apply_lines h .feed false
      rwa [LineEnd.apply_feed] at hparse
    have hchecked := checked_without_path settings
    constructor
    · intro _
      refine ⟨_, rfl, fun marked => ⟨?_, ?_⟩⟩
      · rw [parse_windowsText_lines h, hwritten]
      · rw [parse_windowsText_lines h, hchecked]
    · intro _
      rfl

end TrayIndicator.Settings
