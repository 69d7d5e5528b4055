import TrayIndicator.Proofs.Settings.FileValues
import TrayIndicator.Proofs.Toml.PlainDocument

/-!
# Written settings are read back

Settings whose icon has a path that is a text are written, and the written text
is parsed back to the same settings, every value character for character. Only
the place of the settings file is not written. The lines of the text may end in
either way, and a byte order mark may stand in front.
-/

namespace TrayIndicator

namespace Toml

/-- A written string begins with a quote. -/
theorem spell_eq_cons (text : List Char) :
    ∃ quote written, (quote = '"' ∨ quote = '\'') ∧ spell text = quote :: written := by
  unfold spell
  cases StringForm.of text with
  | basic => exact ⟨'"', _, Or.inl rfl, rfl⟩
  | multiBasic => exact ⟨'"', _, Or.inl rfl, rfl⟩
  | literal => exact ⟨'\'', _, Or.inr rfl, rfl⟩
  | tripleLiteral => exact ⟨'\'', _, Or.inr rfl, rfl⟩
  | multiLiteral => exact ⟨'\'', _, Or.inr rfl, rfl⟩

/-- What begins with a quote is read as a string. -/
theorem value_of_quote {quote : Char} (h : quote = '"' ∨ quote = '\'')
    {source rest text : List Char}
    (hs : stringText (quote :: source) = some (text, rest)) :
    value (quote :: source) = some (.text (String.ofList text), rest) := by
  rcases h with rfl | rfl <;> simp [value, greatestDepth, valueWithin, scalar, hs]

namespace PlainLine

/-- The line of a key and a string. -/
def ofText (ending : LineEnd) (name value : String) : PlainLine :=
  ⟨name, ending.apply (spell value.toList), .text value⟩

/-- The line of a key and a boolean. -/
def ofFlag (name : String) (value : Bool) : PlainLine :=
  ⟨name, (if value then "true" else "false").toList, .boolean value⟩

/-- The line of a bare key and a string is readable. -/
theorem readable_ofText (ending : LineEnd) {name : String} (hne : name.toList ≠ [])
    (hbare : name.toList.all isBare = true) (value : String) :
    (ofText ending name value).Readable ending := by
  obtain ⟨quote, written, hquote, hspell⟩ := spell_eq_cons value.toList
  have hcons : ending.apply (spell value.toList) = quote :: ending.apply written := by
    rw [hspell, LineEnd.apply_cons (by rcases hquote with rfl | rfl <;> decide)]
  refine ⟨hne, List.all_eq_true.mp hbare, fun rest => ?_, fun rest => ?_⟩
  · have hspace : isSpace quote = false := by rcases hquote with rfl | rfl <;> rfl
    simp [ofText, hcons, skipSpaces, hspace]
  · have hread := stringText_spell ending value.toList (endsString_chars ending rest)
    rw [hcons, List.cons_append] at hread
    have hvalue := value_of_quote hquote hread
    rw [String.ofList_toList] at hvalue
    rw [ofText, hcons]
    exact hvalue

/-- The line of a bare key and a boolean is readable. -/
theorem readable_ofFlag (ending : LineEnd) {name : String} (hne : name.toList ≠ [])
    (hbare : name.toList.all isBare = true) (value : Bool) :
    (ofFlag name value).Readable ending := by
  refine ⟨hne, List.all_eq_true.mp hbare, fun rest => ?_, fun rest => ?_⟩
  · cases value <;> rfl
  · cases value <;> rfl

end PlainLine

end Toml

namespace Settings

open Toml

/-- A line keeps its key and takes the line end. -/
theorem apply_line (ending : LineEnd) {name : String} (h : '\n' ∉ name.toList)
    (written : List Char) :
    ending.apply (name.toList ++ [' ', '=', ' '] ++ written ++ ['\n']) =
      name.toList ++ [' ', '=', ' '] ++ ending.apply written ++ ending.chars := by
  have hequals : ending.apply [' ', '=', ' '] = [' ', '=', ' '] :=
    ending.apply_of_not_mem (by decide)
  rw [LineEnd.apply_append, LineEnd.apply_append, LineEnd.apply_append,
    ending.apply_of_not_mem h, hequals, LineEnd.apply_newline, LineEnd.apply_nil, List.append_nil]

/-- A line of key and string is the plain line with other line ends. -/
theorem apply_textLine (ending : LineEnd) (name : String) (h : '\n' ∉ name.toList)
    (value : String) :
    ending.apply (textLine name value) = (PlainLine.ofText ending name value).text ending :=
  apply_line ending h (spell value.toList)

/-- A line of key and boolean is the plain line with other line ends. -/
theorem apply_flagLine (ending : LineEnd) (name : String) (h : '\n' ∉ name.toList)
    (value : Bool) :
    ending.apply (flagLine name value) = (PlainLine.ofFlag name value).text ending := by
  have hvalue : '\n' ∉ (if value then "true" else "false").toList := by cases value <;> decide
  rw [flagLine, apply_line ending h, ending.apply_of_not_mem hvalue]
  rfl

/-- The lines of written settings, given the text of the icon's path. -/
def plainLines (ending : LineEnd) (settings : Settings) (iconPath : String) : List PlainLine :=
  [.ofText ending "icon_path" iconPath, .ofText ending "log_file" settings.logFile,
    .ofText ending "opener" settings.opener, .ofText ending "companion" settings.companion,
    .ofFlag "expand_home" settings.expandHome, .ofText ending "tooltip" settings.tooltip]

/-- Written settings are their lines. -/
theorem apply_lines (ending : LineEnd) (settings : Settings) (iconPath : String) :
    ending.apply (settings.lines iconPath) =
      (settings.plainLines ending iconPath).flatMap (PlainLine.text ending) := by
  have hicon := apply_textLine ending "icon_path" (by decide) iconPath
  have hlog := apply_textLine ending "log_file" (by decide) settings.logFile
  have hopener := apply_textLine ending "opener" (by decide) settings.opener
  have hcompanion := apply_textLine ending "companion" (by decide) settings.companion
  have hexpand := apply_flagLine ending "expand_home" (by decide) settings.expandHome
  have htooltip := apply_textLine ending "tooltip" (by decide) settings.tooltip
  simp only [lines, plainLines, LineEnd.apply_append, hicon, hlog, hopener, hcompanion, hexpand,
    htooltip, List.flatMap_cons, List.flatMap_nil, List.append_assoc, List.append_nil]

/-- Every line of written settings is readable. -/
theorem readable_plainLines (ending : LineEnd) (settings : Settings) (iconPath : String) :
    ∀ line ∈ settings.plainLines ending iconPath, line.Readable ending := by
  simp only [plainLines, List.forall_mem_cons]
  exact ⟨PlainLine.readable_ofText ending (by decide) (by decide) _,
    PlainLine.readable_ofText ending (by decide) (by decide) _,
    PlainLine.readable_ofText ending (by decide) (by decide) _,
    PlainLine.readable_ofText ending (by decide) (by decide) _,
    PlainLine.readable_ofFlag ending (by decide) (by decide) _,
    PlainLine.readable_ofText ending (by decide) (by decide) _, by simp⟩

/-- The values that the lines of written settings hold. -/
theorem ofEntries_plainLines (ending : LineEnd) (settings : Settings) (iconPath : String) :
    FileValues.ofEntries (PlainLine.entriesOf ending (settings.plainLines ending iconPath)) =
      ⟨some (Path.ofText iconPath), some settings.logFile, some settings.opener,
        some settings.companion, some settings.expandHome, some settings.tooltip⟩ := by
  simp [plainLines, PlainLine.entriesOf, PlainLine.ofText, PlainLine.ofFlag, FileValues.ofEntries,
    Entries.read?_cons, Item.path?, Item.text?, Item.flag?]

/-- The lines of written settings suit the settings that they name. -/
theorem misfit?_plainLines (ending : LineEnd) (settings : Settings) (iconPath : String) :
    misfit? (PlainLine.entriesOf ending (settings.plainLines ending iconPath)) = none := by
  simp [plainLines, PlainLine.entriesOf, PlainLine.ofText, PlainLine.ofFlag, misfit?, suits,
    Item.text?, Item.flag?]

/-- The lines of written settings have different keys. -/
theorem nodup_plainLines (ending : LineEnd) (settings : Settings) (iconPath : String) :
    ((settings.plainLines ending iconPath).map PlainLine.name).Nodup := by
  simp only [plainLines, PlainLine.ofText, PlainLine.ofFlag, List.map_cons, List.map_nil]
  decide

/-- A text with the entries of written settings is parsed to these settings, apart from
their place, and they are checked again. -/
theorem parse_of_entries {settings : Settings} {iconPath : String}
    (h : settings.iconPath.text? = some iconPath) {ending : LineEnd} {text : String}
    {document : Document} (hread : Document.read text.toList = some document)
    (hentries : document.entries =
      PlainLine.entriesOf ending (settings.plainLines ending iconPath)) :
    parse text = { settings with path := Path.empty }.checked := by
  have hpath : Path.ofText iconPath = settings.iconPath := by
    rw [Path.ofText, Text.bytes_of_ofBytes? h]
  rw [parse_eq, hread]
  simp only [hentries, misfit?_plainLines, ofEntries_plainLines, hpath]
  rfl

/-- Written settings are parsed back, apart from their place, and checked again;
the line ends may be exchanged, and a byte order mark may stand in front. -/
theorem parse_apply_lines {settings : Settings} {iconPath : String}
    (h : settings.iconPath.text? = some iconPath) (ending : LineEnd) (marked : Bool) :
    parse (String.ofList ((if marked then ['\uFEFF'] else []) ++
      ending.apply (settings.lines iconPath))) = { settings with path := Path.empty }.checked := by
  obtain ⟨document, hread, hentries⟩ :=
    PlainLine.read_flatMap (readable_plainLines ending settings iconPath)
      (nodup_plainLines ending settings iconPath) marked
  rw [← apply_lines, ← String.toList_ofList (l := (if marked then ['\uFEFF'] else []) ++
    ending.apply (settings.lines iconPath))] at hread
  exact parse_of_entries h hread hentries

/-- Writing fails exactly when the icon's path is no text. In every other case
what is written is parsed back: to the same settings, without their place, if no
required one is blank, and else to the error that names the first blank one. -/
theorem parse_render (settings : Settings) :
    (settings.render = .error .unwritable ↔ settings.iconPath.text? = none) ∧
    (settings.iconPath.text?.isSome ↔ ∃ text, settings.render = .ok text ∧
      parse text =
        match settings.missing? with
        | none => .ok { settings with path := Path.empty }
        | some setting => .error (.missing setting)) := by
  unfold render
  cases h : settings.iconPath.text? with
  | none => simp
  | some iconPath =>
    have hparse := parse_apply_lines h .feed false
    rw [LineEnd.apply_feed, if_neg Bool.false_ne_true, List.nil_append] at hparse
    simp only [reduceCtorEq, Option.isSome_some, Except.ok.injEq, exists_eq_left', true_iff,
      true_and, hparse]
    have hmissing : ({ settings with path := Path.empty } : Settings).missing? =
        settings.missing? := rfl
    rw [checked, hmissing]
    cases settings.missing? <;> rfl

end Settings

end TrayIndicator
