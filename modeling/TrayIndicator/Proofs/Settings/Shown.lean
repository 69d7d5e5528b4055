import TrayIndicator.Proofs.Files.Lookup
import TrayIndicator.Proofs.Settings.LineEnds
import TrayIndicator.Proofs.Toml.Comment
import TrayIndicator.Settings.Load
import TrayIndicator.Settings.Show

/-!
# Shown settings

Settings are shown below a comment that names their file. If nothing in the shown name
is a control character, all that is shown is itself a settings file of these settings.
The name is not escaped: a control character in it breaks the comment, except where it
happens to end the line. A line feed ends the comment, and what follows in the name is
read as settings.
-/

namespace TrayIndicator.Settings

open Toml

/-- The line above shown settings, without its mark and its end. -/
def headline (world : World) (settings : Settings) : List Char :=
  if world.exists? settings.path then " Loaded from ".toList ++ settings.path.shown.toList
  else " No config file at ".toList ++ settings.path.shown.toList ++ ", showing defaults".toList

/-- The line above shown settings is a comment. -/
theorem toList_origin (world : World) (settings : Settings) :
    (settings.origin world).toList = '#' :: (settings.headline world ++ ['\n']) := by
  unfold origin headline
  split
  · simp
  · simp

/-- Settings that can be written are shown as their lines below that comment, without a
failure. -/
theorem display_eq {settings : Settings} {iconPath : String}
    (h : settings.iconPath.text? = some iconPath) (world : World) :
    settings.display world =
      (String.ofList ('#' :: (settings.headline world ++ '\n' :: settings.lines iconPath)),
        none) := by
  have horigin := toList_origin world settings
  have htext : settings.origin world ++ String.ofList (settings.lines iconPath) =
      String.ofList ('#' :: (settings.headline world ++ '\n' :: settings.lines iconPath)) := by
    rw [← String.toList_inj, String.toList_append, horigin, String.toList_ofList,
      String.toList_ofList, List.cons_append, List.append_assoc, List.singleton_append]
  rw [display, render, h]
  exact Prod.ext htext rfl

/-- Below a comment written settings are parsed back. The comment's line may end in either
way. -/
theorem parse_comment_lines {settings : Settings} {iconPath : String}
    (h : settings.iconPath.text? = some iconPath) {comment : List Char}
    (hplain : comment.all isPlain = true) (commentEnd : LineEnd) :
    parse (String.ofList ('#' :: (comment ++ (commentEnd.chars ++ settings.lines iconPath)))) =
      { settings with path := Path.empty }.checked := by
  have hlines := apply_lines .feed settings iconPath
  rw [LineEnd.apply_feed] at hlines
  have hstatements := statements_comment_flatMap hplain commentEnd
    (readable_plainLines .feed settings iconPath)
  rw [← hlines] at hstatements
  obtain ⟨document, hread, hentries⟩ :=
    PlainLine.read_of_statements (nodup_plainLines .feed settings iconPath) hstatements
  rw [← String.toList_ofList (l := '#' :: (comment ++ (commentEnd.chars ++
    settings.lines iconPath)))] at hread
  exact parse_of_entries h hread hentries

/-- A text that begins with a broken comment is not of the format. -/
theorem parse_broken_comment {comment : List Char} (hplain : comment.all isPlain = true) {c : Char}
    (hc : isPlain c = false) {rest : List Char} (hend : newline? (c :: rest) = none) :
    parse (String.ofList ('#' :: (comment ++ c :: rest))) = .error .malformed := by
  have hread : Document.read ('#' :: (comment ++ c :: rest)) = none := by
    rw [Document.read, statements_broken_comment hplain hc hend]
    rfl
  rw [parse_eq, String.toList_ofList, hread]

section Names

variable {settings : Settings} {iconPath : String}

/-- A name without control characters leaves the comment whole, and what is shown is
parsed to the settings. -/
theorem parse_display_of_plain (h : settings.iconPath.text? = some iconPath) (world : World)
    (hplain : settings.path.shown.toList.all isPlain = true) :
    parse (settings.display world).1 = { settings with path := Path.empty }.checked := by
  have hheadline : (settings.headline world).all isPlain = true := by
    unfold headline
    split
    · rw [List.all_append, hplain, Bool.and_true]
      decide
    · rw [List.all_append, List.all_append, hplain, Bool.and_true]
      decide
  rw [display_eq h]
  exact parse_comment_lines h hheadline .feed

/-- A carriage return at the end of the name of a file that is there belongs to the line
end. -/
theorem parse_display_of_return (h : settings.iconPath.text? = some iconPath) {world : World}
    (hthere : world.exists? settings.path = true) {front : List Char}
    (hname : settings.path.shown.toList = front ++ ['\r']) (hplain : front.all isPlain = true) :
    parse (settings.display world).1 = { settings with path := Path.empty }.checked := by
  have hcomment : (" Loaded from ".toList ++ front).all isPlain = true := by
    rw [List.all_append, hplain, Bool.and_true]
    decide
  have hheadline : settings.headline world ++ '\n' :: settings.lines iconPath =
      (" Loaded from ".toList ++ front) ++
        (LineEnd.returnFeed.chars ++ settings.lines iconPath) := by
    rw [headline, if_pos hthere, hname, List.append_assoc, List.append_assoc, List.append_assoc]
    rfl
  rw [display_eq h, hheadline]
  exact parse_comment_lines h hcomment .returnFeed

/-- A control character that ends no line is not made to end one by what comes below. -/
theorem newline?_append {c : Char} {rest : List Char} (hend : newline? (c :: rest) = none)
    (below : List Char) (hbelow : c = '\r' → rest = [] → below.head? ≠ some '\n') :
    newline? (c :: (rest ++ below)) = none := by
  rw [newline?_eq_none_iff] at hend ⊢
  obtain ⟨hfeed, hreturn⟩ := hend
  refine ⟨hfeed, fun hc => ?_⟩
  cases rest with
  | nil => exact hbelow hc rfl
  | cons d rest => exact hreturn hc

/-- A comment that a control character breaks within it makes a text malformed. -/
theorem parse_broken_headline {lead front : List Char} (hlead : lead.all isPlain = true)
    (hplain : front.all isPlain = true) {c : Char} (hc : isPlain c = false) {rest : List Char}
    (hend : newline? (c :: rest) = none) (below : List Char)
    (hbelow : c = '\r' → rest = [] → below.head? ≠ some '\n') :
    parse (String.ofList ('#' :: (lead ++ (front ++ c :: rest) ++ below))) =
      .error .malformed := by
  have hcomment : (lead ++ front).all isPlain = true := by
    rw [List.all_append, hlead, hplain]
    rfl
  have htext : lead ++ (front ++ c :: rest) ++ below = lead ++ front ++ c :: (rest ++ below) := by
    simp only [List.append_assoc, List.cons_append]
  rw [htext]
  exact parse_broken_comment hcomment hc (newline?_append hend below hbelow)

/-- The first control character of a name breaks the comment, unless it ends the line. -/
theorem parse_display_of_control (h : settings.iconPath.text? = some iconPath) {world : World}
    {front : List Char} {c : Char} {rest : List Char}
    (hname : settings.path.shown.toList = front ++ c :: rest)
    (hplain : front.all isPlain = true) (hc : isPlain c = false)
    (hend : newline? (c :: rest) = none)
    (hjoin : ¬ (world.exists? settings.path = true ∧ c = '\r' ∧ rest = [])) :
    parse (settings.display world).1 = .error .malformed := by
  rw [display_eq h, headline, hname]
  split
  · next hthere =>
    exact parse_broken_headline (by decide) hplain hc hend ('\n' :: settings.lines iconPath)
      fun hreturn hrest => absurd ⟨hthere, hreturn, hrest⟩ hjoin
  · have hcomma : (", showing defaults".toList ++ '\n' :: settings.lines iconPath).head? =
        some ',' := rfl
    rw [List.append_assoc]
    refine parse_broken_headline (by decide) hplain hc hend _ fun _ _ => ?_
    rw [hcomma]
    decide

/-- A file whose text is parsed to settings without a place is loaded with its own. -/
theorem loadFrom_of_parse {world : World} {place : Path} {text : String}
    (hread : world.readText place = .ok text)
    (hparse : parse text = .ok { settings with path := Path.empty }) :
    loadFrom world place = .ok { settings with path := place } := by
  rw [loadFrom, hread, ofReading, hparse]
  rfl

/-- Valid settings that can be written are shown in full. If the shown name of their file
has no control characters beside tabs, what is shown is parsed to the same settings, apart
from their place, and a file of that text is loaded as them. Otherwise the first control
character decides, unless a line ends there: what is shown is not of the format, except
that a carriage return at the end of the name of a file that is there does no harm. -/
theorem shown_settings_read_back {settings : Settings}
    (hwritable : settings.iconPath.text?.isSome = true) (hvalid : settings.missing? = none)
    (world : World) :
    let shown := settings.display world
    let name := settings.path.shown.toList
    shown.2 = none ∧
    (name.all isPlain = true →
      parse shown.1 = .ok { settings with path := Path.empty } ∧
      ∀ other place, other.readText place = .ok shown.1 →
        loadFrom other place = .ok { settings with path := place }) ∧
    ∀ front c rest, name = front ++ c :: rest → front.all isPlain = true →
      isPlain c = false → newline? (c :: rest) = none →
      parse shown.1 =
        if world.exists? settings.path = true ∧ c = '\r' ∧ rest = [] then
          .ok { settings with path := Path.empty }
        else .error .malformed := by
  intro shown name
  obtain ⟨iconPath, hicon⟩ := Option.isSome_iff_exists.mp hwritable
  have hchecked : ({ settings with path := Path.empty } : Settings).checked =
      .ok { settings with path := Path.empty } := by
    rw [checked_without_path, hvalid]
  have hshown := display_eq hicon world
  refine ⟨congrArg Prod.snd hshown, fun hplain => ?_, ?_⟩
  · have hparse := parse_display_of_plain hicon world hplain
    rw [hchecked] at hparse
    exact ⟨hparse, fun other place hread => loadFrom_of_parse hread hparse⟩
  · intro front c rest hname hfront hc hend
    by_cases hjoin : world.exists? settings.path = true ∧ c = '\r' ∧ rest = []
    · obtain ⟨hthere, hreturn, hrest⟩ := hjoin
      rw [hreturn, hrest] at hname
      have hparse := parse_display_of_return hicon hthere hname hfront
      rw [hchecked] at hparse
      rw [if_pos ⟨hthere, hreturn, hrest⟩]
      exact hparse
    · rw [if_neg hjoin]
      exact parse_display_of_control hicon hname hfront hc hend hjoin

/-- The defaults of an absent file are shown, saved elsewhere and loaded from there, while
a carriage return within the name makes what is shown malformed. -/
theorem shown_defaults_read_back :
    let world : World := ⟨[], Path.ofText "/", ⟨[]⟩, none, fun _ => none⟩
    let settings : Settings := { default with path := Path.ofText "/c" }
    let shown := (settings.display world).1
    let saved : World :=
      ⟨[], Path.ofText "/", ⟨[([Text.bytes "s"], .file (Text.bytes shown) 0o644)]⟩, none,
        fun _ => none⟩
    let broken : Settings := { default with path := Path.ofText "a\rb" }
    (settings.iconPath.text?.isSome = true ∧ settings.missing? = none ∧
      settings.path.shown.toList.all isPlain = true) ∧
    parse shown = .ok { settings with path := Path.empty } ∧
    saved.readText (Path.ofText "/s") = .ok shown ∧
    loadFrom saved (Path.ofText "/s") = .ok { settings with path := Path.ofText "/s" } ∧
    broken.path.shown.toList = ['a', '\r', 'b'] ∧
    parse (broken.display world).1 = .error .malformed := by
  intro world settings shown saved broken
  have hwritable : settings.iconPath.text?.isSome = true := by decide
  have hvalid : settings.missing? = none := by decide
  have hplain : settings.path.shown.toList.all isPlain = true := by decide
  have hplace : Path.ofText "/s" = ⟨Path.slash :: Text.bytes "s"⟩ := by decide
  have hnode : saved.files.at? [Text.bytes "s"] = some (.file (Text.bytes shown) 0o644) := rfl
  have hsaved : saved.readText (Path.ofText "/s") = .ok shown := by
    rw [World.readText, Files.Tree.readText, Files.Tree.read, hplace,
      Files.Tree.find_below_root saved.files _ (by decide) (by simp [hnode]), hnode]
    simp only [Text.ofBytes?_bytes]
  have hname : broken.path.shown.toList = ['a'] ++ '\r' :: ['b'] := by decide
  obtain ⟨hparse, hloaded⟩ := (shown_settings_read_back hwritable hvalid world).2.1 hplain
  have hbrokenWritable : broken.iconPath.text?.isSome = true := by decide
  have hbrokenValid : broken.missing? = none := by decide
  have hbroken := (shown_settings_read_back hbrokenWritable hbrokenValid world).2.2
    ['a'] '\r' ['b'] hname (by decide) (by decide) (by decide)
  rw [if_neg (by simp)] at hbroken
  exact ⟨⟨hwritable, hvalid, hplain⟩, hparse, hsaved, hloaded saved _ hsaved, hname, hbroken⟩

/-- A line feed in the name ends the comment: settings are valid and can be written, but
what is shown is not of the format. -/
theorem shown_name_with_line_feed_malformed :
    let world : World := ⟨[], Path.ofText "/", ⟨[]⟩, none, fun _ => none⟩
    let settings : Settings := { default with path := Path.ofText "/a\nb" }
    settings.iconPath.text?.isSome = true ∧ settings.missing? = none ∧
      (settings.display world).2 = none ∧
      parse (settings.display world).1 = .error .malformed := by
  intro world settings
  have hicon : settings.iconPath.text? = some "/usr/share/pixmaps/syncrop.png" := by decide
  have hplace : settings.path = ⟨Path.slash :: Text.bytes "a\nb"⟩ := by decide
  have hnode : world.files.at? [Text.bytes "a\nb"] = none := rfl
  have hthere : world.exists? settings.path = false := by
    rw [World.exists?, Files.Tree.exists, hplace,
      Files.Tree.find_below_root world.files _ (by decide) (by simp [hnode]), hnode]
    rfl
  have hheadline : settings.headline world =
      " No config file at /a\nb, showing defaults".toList := by
    rw [headline, hthere]
    decide
  have hread : (Document.read ('#' :: (" No config file at /a\nb, showing defaults".toList ++
      '\n' :: settings.lines "/usr/share/pixmaps/syncrop.png"))).isNone = true := by
    decide +kernel
  have hshown := display_eq hicon world
  refine ⟨by rw [hicon]; rfl, by decide, congrArg Prod.snd hshown, ?_⟩
  rw [hshown, parse_eq, String.toList_ofList, hheadline, Option.isNone_iff_eq_none.mp hread]

end Names

end TrayIndicator.Settings
