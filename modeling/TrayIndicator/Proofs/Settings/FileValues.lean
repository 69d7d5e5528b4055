import TrayIndicator.Proofs.Toml.DistinctNames
import TrayIndicator.Settings.Format

/-!
# What a settings file says

A document says something of a setting when its root table has an entry of that
name. The settings it spells are the defaults with exactly these values laid
over them, unless an entry has the wrong type; then the first such entry is
complained of. Nothing else of the document counts.
-/

namespace TrayIndicator

namespace Toml

/-- The text of an item that is one. -/
def Item.text? : Item → Option String
  | .value (.text held) _ => some held
  | _ => none

/-- The path that the text of an item spells. -/
def Item.path? (item : Item) : Option Path := item.text?.map Path.ofText

/-- The boolean of an item that is one. -/
def Item.flag? : Item → Option Bool
  | .value (.boolean held) _ => some held
  | _ => none

/-- What is read from the entry with a name, if there is one. -/
def Entries.read? {α : Type} (reads : Item → Option α) (entries : Entries) (name : String) :
    Option α :=
  (entries.lookup name).bind reads

variable {α : Type} {reads : Item → Option α}

/-- Nothing is read where there are no entries. -/
@[simp]
theorem Entries.read?_nil (name : String) : Entries.read? reads [] name = none := rfl

/-- The first entry answers for its own name and the others for theirs. -/
theorem Entries.read?_cons (entry : String × Item) (entries : Entries) (name : String) :
    Entries.read? reads (entry :: entries) name =
      if name = entry.1 then reads entry.2 else Entries.read? reads entries name := by
  unfold Entries.read?
  rw [List.lookup_cons]
  by_cases h : name = entry.1
  · rw [if_pos h, beq_iff_eq.mpr h]
    rfl
  · rw [if_neg h, beq_eq_false_iff_ne.mpr h]

/-- Nothing is read from an entry that is not there. -/
theorem Entries.read?_of_not_mem {entries : Entries} {name : String}
    (h : name ∉ entries.map Prod.fst) : Entries.read? reads entries name = none := by
  rw [Entries.read?, Entries.lookup_of_not_mem h]
  rfl

/-- A first entry counts as laid under the later ones, where its name is its
own. -/
theorem Entries.getD_read?_cons {entry : String × Item} {entries : Entries}
    (h : entry.1 ∉ entries.map Prod.fst) (name : String) (fallback : α) :
    (Entries.read? reads (entry :: entries) name).getD fallback =
      (Entries.read? reads entries name).getD
        ((Entries.read? reads [entry] name).getD fallback) := by
  rw [Entries.read?_cons, Entries.read?_cons]
  by_cases hn : name = entry.1
  · rw [if_pos hn, if_pos hn, hn, Entries.read?_of_not_mem h]
    rfl
  · rw [if_neg hn, if_neg hn]
    rfl

end Toml

open Toml

/-- What a settings file says of each setting; nothing where it has no entry. -/
structure FileValues where
  /-- The icon, if the file names one. -/
  iconPath : Option Path
  /-- The log file, if the file names one. -/
  logFile : Option String
  /-- The opener, if the file names one. -/
  opener : Option String
  /-- The companion, if the file names one. -/
  companion : Option String
  /-- Is the tilde expanded, if the file says so? -/
  expandHome : Option Bool
  /-- The tooltip, if the file has one. -/
  tooltip : Option String

namespace FileValues

/-- A file that says nothing. -/
def none : FileValues := ⟨.none, .none, .none, .none, .none, .none⟩

/-- The values of the entries with the names of settings. -/
def ofEntries (entries : Entries) : FileValues where
  iconPath := Entries.read? Item.path? entries "icon_path"
  logFile := Entries.read? Item.text? entries "log_file"
  opener := Entries.read? Item.text? entries "opener"
  companion := Entries.read? Item.text? entries "companion"
  expandHome := Entries.read? Item.flag? entries "expand_home"
  tooltip := Entries.read? Item.text? entries "tooltip"

/-- The settings with the values of a file laid over them. -/
def laidOver (values : FileValues) (settings : Settings) : Settings :=
  { settings with
    iconPath := values.iconPath.getD settings.iconPath
    logFile := values.logFile.getD settings.logFile
    opener := values.opener.getD settings.opener
    companion := values.companion.getD settings.companion
    expandHome := values.expandHome.getD settings.expandHome
    tooltip := values.tooltip.getD settings.tooltip }

/-- Nothing laid over settings changes nothing. -/
theorem none_laidOver (settings : Settings) : none.laidOver settings = settings := rfl

/-- The values of entries are laid over one after the other, where no two have
the same name. -/
theorem ofEntries_cons_laidOver {entry : String × Item} {entries : Entries}
    (h : entry.1 ∉ entries.map Prod.fst) (settings : Settings) :
    (ofEntries (entry :: entries)).laidOver settings =
      (ofEntries entries).laidOver ((ofEntries [entry]).laidOver settings) := by
  simp only [laidOver, ofEntries, Entries.getD_read?_cons h]

end FileValues

namespace Settings

/-- What the entry of a setting should hold, as a complaint words it. -/
def wantedOf (name : String) : String :=
  match name with
  | "icon_path" => "path string"
  | "expand_home" => "a boolean"
  | _ => "a string"

/-- Does an entry hold what the setting of its name should hold? Entries that
name no setting may hold anything. -/
def suits (entry : String × Item) : Bool :=
  match entry.1 with
  | "icon_path" | "log_file" | "opener" | "companion" | "tooltip" => entry.2.text?.isSome
  | "expand_home" => entry.2.flag?.isSome
  | _ => true

/-- The text of an item is taken; any other item is complained of. -/
theorem expectText_eq (document : Document) (wanted : String) (item : Item) :
    expectText document wanted item =
      (item.text?.map .ok).getD (.error (.wrongType (document.complaint item wanted))) := by
  unfold expectText
  split
  · rfl
  · next hother =>
    have htext : item.text? = none := by
      unfold Item.text?
      split <;> simp_all
    rw [htext]
    rfl

/-- The boolean of an item is taken; any other item is complained of. -/
theorem expectFlag_eq (document : Document) (item : Item) :
    expectFlag document item =
      (item.flag?.map .ok).getD (.error (.wrongType (document.complaint item "a boolean"))) := by
  unfold expectFlag
  split
  · rfl
  · next hother =>
    have hflag : item.flag? = none := by
      unfold Item.flag?
      split <;> simp_all
    rw [hflag]
    rfl

/-- An entry that suits its setting is laid over the settings. -/
theorem readEntry_eq (document : Document) (settings : Settings) (entry : String × Item) :
    readEntry document settings entry =
      if suits entry then .ok ((FileValues.ofEntries [entry]).laidOver settings)
      else .error (.wrongType (document.complaint entry.2 (wantedOf entry.1))) := by
  obtain ⟨name, item⟩ := entry
  unfold readEntry
  -- the cases are the six names and, last, any other
  split
  case h_7 hpath hlog hopener hcompanion hflag htooltip =>
    simp_all [suits, FileValues.laidOver, FileValues.ofEntries, Entries.read?_cons, eq_comm]
  case h_5 h =>
    subst h
    rw [expectFlag_eq]
    cases hflag : item.flag? <;>
      simp [suits, hflag, wantedOf, FileValues.laidOver, FileValues.ofEntries, Entries.read?_cons,
        bind, Except.bind]
  all_goals
    next h =>
      subst h
      rw [expectText_eq]
      cases htext : item.text? <;>
        simp [suits, htext, wantedOf, FileValues.laidOver, FileValues.ofEntries, Entries.read?_cons,
          Item.path?, bind, Except.bind]

/-- The first entry that does not suit its setting. -/
def misfit? (entries : Entries) : Option (String × Item) :=
  List.find? (fun entry => !suits entry) entries

/-- Reading entries stops at the first that does not suit its setting; without
one all of them are laid over the settings. -/
theorem foldlM_readEntry (document : Document) {entries : Entries} (hd : entries.Distinct)
    (settings : Settings) :
    entries.foldlM (readEntry document) settings =
      match misfit? entries with
      | some entry => .error (.wrongType (document.complaint entry.2 (wantedOf entry.1)))
      | none => .ok ((FileValues.ofEntries entries).laidOver settings) := by
  induction entries generalizing settings with
  | nil => rfl
  | cons entry entries ih =>
    obtain ⟨hfresh, hlater⟩ := List.nodup_cons.mp hd
    rw [List.foldlM_cons, readEntry_eq]
    by_cases h : suits entry = true
    · have hmisfit : misfit? (entry :: entries) = misfit? entries :=
        List.find?_cons_of_neg (by simp [h])
      rw [if_pos h, hmisfit, FileValues.ofEntries_cons_laidOver hfresh]
      exact ih hlater _
    · have hmisfit : misfit? (entry :: entries) = some entry :=
        List.find?_cons_of_pos (by simp [h])
      rw [if_neg h, hmisfit]
      rfl

/-- The settings of a document are the defaults with its values laid over
them, or there is a complaint about its first entry of a wrong type. -/
theorem ofDocument_eq {document : Document} (hd : document.entries.Distinct) :
    ofDocument document =
      match misfit? document.entries with
      | some entry => .error (.wrongType (document.complaint entry.2 (wantedOf entry.1)))
      | none => .ok ((FileValues.ofEntries document.entries).laidOver default) :=
  foldlM_readEntry document hd default

/-- A text is parsed in three stages: it must be of the format, its entries must
suit their settings, and no required setting may be blank. -/
theorem parse_eq (text : String) :
    parse text =
      match Document.read text.toList with
      | none => .error .malformed
      | some document =>
        match misfit? document.entries with
        | some entry => .error (.wrongType (document.complaint entry.2 (wantedOf entry.1)))
        | none => ((FileValues.ofEntries document.entries).laidOver default).checked := by
  unfold parse
  cases hread : Document.read text.toList with
  | none => rfl
  | some document =>
    simp only [ofDocument_eq (Document.read_distinct hread)]
    cases misfit? document.entries <;> rfl

end Settings

end TrayIndicator
