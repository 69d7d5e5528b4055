import TrayIndicator.Proofs.Settings.FileValues
import TrayIndicator.Proofs.Toml.RootNames

/-!
# The root table of a settings file

What a settings file comes to is settled by six entries of its root table. The
first entry of a wrong type is complained of, in the order in which the text
defines them; without one the entries that are there replace the defaults, and
the settings are checked. Documents that agree on the six entries therefore come
to the same, whatever else they hold and in whatever order.

Which characters spell which table is a matter of the format and not of this
module.
-/

namespace TrayIndicator

namespace Toml

/-- The names of the settings in a settings file. -/
def settingNames : List String :=
  ["icon_path", "log_file", "opener", "companion", "expand_home", "tooltip"]

/-- What a setting can be read from: a text or a boolean. -/
def Item.scalar? : Item → Option (String ⊕ Bool)
  | .value (.text held) _ => some (.inl held)
  | .value (.boolean held) _ => some (.inr held)
  | _ => none

/-- Two root tables agree on the settings: every name of one is in both or in
neither, and holds the same text in both, the same boolean, or in both something
that is neither. -/
def Entries.AgreeOnSettings (first second : Entries) : Prop :=
  ∀ name ∈ settingNames,
    (first.lookup name).map Item.scalar? = (second.lookup name).map Item.scalar?

/-- The text of an item is its scalar, if that is a text. -/
theorem Item.text?_eq (item : Item) : item.text? = item.scalar?.bind Sum.getLeft? := by
  unfold text? scalar?
  split <;> simp_all
  split <;> simp_all

/-- The boolean of an item is its scalar, if that is a boolean. -/
theorem Item.flag?_eq (item : Item) : item.flag? = item.scalar?.bind Sum.getRight? := by
  unfold flag? scalar?
  split <;> simp_all
  split <;> simp_all

/-- What is read from the scalars is the same where tables agree. -/
theorem Entries.AgreeOnSettings.read?_eq {first second : Entries}
    (h : first.AgreeOnSettings second) {α : Type} {reads : Item → Option α}
    (ofScalar : Option (String ⊕ Bool) → Option α)
    (hreads : ∀ item, reads item = ofScalar item.scalar?) {name : String}
    (hname : name ∈ settingNames) :
    Entries.read? reads first name = Entries.read? reads second name := by
  have hread (entries : Entries) :
      Entries.read? reads entries name =
        ((entries.lookup name).map Item.scalar?).bind ofScalar := by
    rw [Entries.read?, Option.bind_map]
    exact congrArg _ (funext hreads)
  rw [hread, hread, h name hname]

end Toml

open Toml

namespace FileValues

/-- Documents that agree on the settings say the same of them. -/
theorem ofEntries_eq_of_agree {first second : Entries} (h : first.AgreeOnSettings second) :
    ofEntries first = ofEntries second := by
  have htext (name) (hname : name ∈ settingNames) :
      Entries.read? Item.text? first name = Entries.read? Item.text? second name :=
    h.read?_eq (·.bind Sum.getLeft?) Item.text?_eq hname
  have hpath : Entries.read? Item.path? first "icon_path" =
      Entries.read? Item.path? second "icon_path" :=
    h.read?_eq (fun scalar => (scalar.bind Sum.getLeft?).map Path.ofText)
      (fun item => by rw [Item.path?, Item.text?_eq]) (by decide)
  have hflag : Entries.read? Item.flag? first "expand_home" =
      Entries.read? Item.flag? second "expand_home" :=
    h.read?_eq (·.bind Sum.getRight?) Item.flag?_eq (by decide)
  simp only [ofEntries, hpath, hflag, htext "log_file" (by decide), htext "opener" (by decide),
    htext "companion" (by decide), htext "tooltip" (by decide)]

end FileValues

namespace Settings

/-- Only the entries of settings can fail to suit. -/
theorem mem_settingNames_of_suits {entry : String × Item} (h : suits entry = false) :
    entry.1 ∈ settingNames := by
  unfold suits at h
  split at h <;> simp_all [settingNames]

/-- Whether an entry suits its setting is a matter of its name and scalar. -/
theorem suits_eq_of_scalar? {name : String} {first second : Item}
    (h : first.scalar? = second.scalar?) : suits (name, first) = suits (name, second) := by
  have htext : first.text? = second.text? := by rw [Item.text?_eq, Item.text?_eq, h]
  have hflag : first.flag? = second.flag? := by rw [Item.flag?_eq, Item.flag?_eq, h]
  simp only [suits, htext, hflag]

/-- Where tables agree on the settings, both have entries that do not suit or
neither has. -/
theorem misfit?_isSome_of_agree {first second : Entries} (h : first.AgreeOnSettings second)
    (hfirst : first.Distinct) (hsecond : second.Distinct)
    (hmisfit : (misfit? first).isSome = true) : (misfit? second).isSome = true := by
  rw [misfit?, List.find?_isSome] at hmisfit ⊢
  obtain ⟨⟨name, item⟩, hm, hsuits⟩ := hmisfit
  have hname := mem_settingNames_of_suits (Bool.not_eq_true' _ |>.mp hsuits)
  have hlookup := (hfirst.mem_iff_lookup name item).mp hm
  have hagree := h name hname
  rw [hlookup, Option.map_some, eq_comm, Option.map_eq_some_iff] at hagree
  obtain ⟨other, hother, hscalar⟩ := hagree
  exact ⟨(name, other), (hsecond.mem_iff_lookup name other).mpr hother,
    by rw [suits_eq_of_scalar? hscalar]; exact hsuits⟩

/-- A text that is not of the format is malformed, whatever its keys. Any other
text comes to what its root table says of the six settings. The entries stand in
the order in which the statements define them, and the first one that does not
suit its setting is complained of, whatever else is wrong. If there is none, the
settings are the defaults with exactly the values of the entries that are there,
checked for blank ones. Texts whose root tables agree on the six settings come to
the same, apart from what a complaint about a wrong type says. A table that the header
of a table within it names first is defined, and counts, only from its own header on. -/
theorem parse_follows_root_table :
    (∀ text, Document.read text.toList = none → parse text = .error .malformed) ∧
    (∀ text document, Document.read text.toList = some document →
      (∃ read, statements text.toList = some read ∧
        document.entries.map Prod.fst = rootNames read) ∧
      (∀ before name item after, document.entries = before ++ (name, item) :: after →
        (∀ entry ∈ before, suits entry = true) → suits (name, item) = false →
          parse text = .error (.wrongType (document.complaint item (wantedOf name)))) ∧
      ((∀ entry ∈ document.entries, suits entry = true) →
        parse text = ((FileValues.ofEntries document.entries).laidOver default).checked)) ∧
    ∀ first second one two, Document.read first.toList = some one →
      Document.read second.toList = some two → one.entries.AgreeOnSettings two.entries →
        parse first = parse second ∨ ∃ ours theirs,
          parse first = .error (.wrongType ours) ∧ parse second = .error (.wrongType theirs) := by
  refine ⟨?_, ?_, ?_⟩
  · intro text hread
    rw [parse_eq, hread]
  · intro text document hread
    refine ⟨Document.read_names hread, ?_, ?_⟩
    · intro before name item after hentries hbefore hitem
      have hmisfit : misfit? document.entries = some (name, item) := by
        rw [misfit?, hentries, List.find?_append, List.find?_cons_of_pos (by simp [hitem]),
          List.find?_eq_none.mpr fun entry he => by simp [hbefore entry he], Option.none_or]
      rw [parse_eq, hread]
      simp only [hmisfit]
    · intro hall
      have hmisfit : misfit? document.entries = none :=
        List.find?_eq_none.mpr fun entry he => by simp [hall entry he]
      rw [parse_eq, hread]
      simp only [hmisfit]
  · intro first second one two hone htwo hagree
    have hone' := Document.read_distinct hone
    have htwo' := Document.read_distinct htwo
    have hback : two.entries.AgreeOnSettings one.entries := fun name hname =>
      (hagree name hname).symm
    rw [parse_eq, parse_eq, hone, htwo]
    cases hours : misfit? one.entries with
    | some entry =>
      have htheirs := misfit?_isSome_of_agree hagree hone' htwo' (by rw [hours]; rfl)
      obtain ⟨other, hother⟩ := Option.isSome_iff_exists.mp htheirs
      simp only [hours, hother]
      exact .inr ⟨_, _, rfl, rfl⟩
    | none =>
      have htheirs : misfit? two.entries = none := by
        refine Option.not_isSome_iff_eq_none.mp fun hsome => ?_
        have hours' := misfit?_isSome_of_agree hback htwo' hone' hsome
        rw [hours] at hours'
        cases hours'
      simp only [hours, htheirs, FileValues.ofEntries_eq_of_agree hagree, true_or]

/-- A comment, an unknown key, a key of the path, another order and the same name
in another table make no difference: the settings are the defaults with the opener and
the expansion of the two texts. -/
theorem parse_follows_root_table_around_settings :
    let first := "opener = 'a'\nexpand_home = true\n"
    let second :=
      "# note\npath = 1\nexpand_home = true # x\nopener = \"a\"\n[other]\nopener = 5\n"
    let settings := { Settings.default with opener := "a", expandHome := true }
    (∃ one two, Document.read first.toList = some one ∧ Document.read second.toList = some two ∧
      one.entries.AgreeOnSettings two.entries) ∧
      parse first = .ok settings ∧ parse second = .ok settings := by
  intro first second settings
  have hone : (Document.read first.toList).isSome = true := by decide +kernel
  have htwo : (Document.read second.toList).isSome = true := by decide +kernel
  have hsuits : ∀ entry ∈ ((Document.read first.toList).get hone).entries,
      suits entry = true := by decide +kernel +revert
  have hlaid : (FileValues.ofEntries ((Document.read first.toList).get hone).entries).laidOver
      Settings.default = settings := by decide +kernel +revert
  have hchecked : settings.checked = .ok settings := by
    have hmissing : settings.missing? = none := by decide
    rw [checked, hmissing]
  have hagree : ((Document.read first.toList).get hone).entries.AgreeOnSettings
      ((Document.read second.toList).get htwo).entries := by
    unfold Entries.AgreeOnSettings
    clear hsuits hlaid
    decide +kernel +revert
  have hreadOne := (Option.some_get hone).symm
  have hreadTwo := (Option.some_get htwo).symm
  obtain ⟨-, htables, hsame⟩ := parse_follows_root_table
  have hfirst : parse first = .ok settings := by
    obtain ⟨-, -, hvalues⟩ := htables first _ hreadOne
    rw [hvalues hsuits, hlaid, hchecked]
  refine ⟨⟨_, _, hreadOne, hreadTwo, hagree⟩, hfirst, ?_⟩
  obtain hboth | ⟨ours, theirs, hours, -⟩ := hsame first second _ _ hreadOne hreadTwo hagree
  · rw [← hboth, hfirst]
  · rw [hfirst] at hours
    cases hours

end Settings

end TrayIndicator
