import TrayIndicator.Toml.Document

/-!
# Distinct names in the root table

No text spells a document whose root table has two entries of one name. Every
statement keeps this, since an entry is only appended where its name is free and
otherwise exchanged in its place. Tables within the root are not considered.
-/

namespace TrayIndicator.Toml

/-- No two entries have the same name. -/
def Entries.Distinct (entries : Entries) : Prop := (entries.map Prod.fst).Nodup

namespace Entries

/-- The empty table has no two entries at all. -/
theorem distinct_nil : Distinct [] := List.nodup_nil

/-- A name that is not found is no entry's name. -/
theorem not_mem_of_lookup {entries : Entries} {name : String} (h : entries.lookup name = none) :
    name ∉ entries.map Prod.fst := by
  intro hm
  obtain ⟨entry, he, hname⟩ := List.mem_map.mp hm
  have hne := List.lookup_eq_none_iff.mp h entry he
  simp [hname] at hne

/-- A name that is no entry's is not found. -/
theorem lookup_of_not_mem {entries : Entries} {name : String}
    (h : name ∉ entries.map Prod.fst) : entries.lookup name = none := by
  rw [List.lookup_eq_none_iff]
  intro entry he
  rw [bne_iff_ne]
  exact fun hn => h (List.mem_map.mpr ⟨entry, he, hn.symm⟩)

/-- A name that is found is among the names. -/
theorem mem_of_lookup {entries : Entries} {name : String} {item : Item}
    (h : entries.lookup name = some item) : name ∈ entries.map Prod.fst := by
  refine Classical.byContradiction fun hfree => ?_
  rw [lookup_of_not_mem hfree] at h
  cases h

/-- An entry of a new name can be appended. -/
theorem Distinct.append {entries : Entries} (h : entries.Distinct) {name : String}
    (hn : name ∉ entries.map Prod.fst) (item : Item) : (entries ++ [(name, item)]).Distinct := by
  rw [Distinct, List.map_append, List.nodup_append]
  refine ⟨h, by simp, ?_⟩
  intro other hm last hl heq
  rw [List.map_singleton, List.mem_singleton] at hl
  rw [heq, hl] at hm
  exact hn hm

/-- An entry of distinct ones is found by its name. -/
theorem Distinct.mem_iff_lookup {entries : Entries} (hd : entries.Distinct) (name : String)
    (item : Item) : (name, item) ∈ entries ↔ entries.lookup name = some item := by
  induction entries with
  | nil => simp
  | cons entry entries ih =>
    obtain ⟨hfresh, hlater⟩ := List.nodup_cons.mp hd
    obtain ⟨own, held⟩ := entry
    rw [List.mem_cons, List.lookup_cons]
    by_cases hn : name = own
    · subst hn
      have hnot : (name, item) ∉ entries := fun hm =>
        hfresh (List.mem_map.mpr ⟨(name, item), hm, rfl⟩)
      simp [hnot, eq_comm]
    · simp [hn, beq_eq_false_iff_ne.mpr hn, ih hlater]

/-- Exchanging an item changes no name. -/
theorem map_fst_replace (entries : Entries) (name : String) (item : Item) :
    (entries.replace name item).map Prod.fst = entries.map Prod.fst := by
  rw [replace, List.map_map]
  refine List.map_congr_left fun entry _ => ?_
  by_cases h : entry.1 = name <;> simp [h]

/-- An item can be exchanged. -/
theorem Distinct.replace {entries : Entries} (h : entries.Distinct) (name : String) (item : Item) :
    (entries.replace name item).Distinct := by
  rw [Distinct, map_fst_replace]
  exact h

/-- Entries can be left out. -/
theorem Distinct.filter {entries : Entries} (h : entries.Distinct) (keeps : String × Item → Bool) :
    Distinct (entries.filter keeps) :=
  (List.filter_sublist.map Prod.fst).nodup h

/-- A change that keeps names distinct where it is made does so along any path. -/
theorem changeAt_distinct {made : TableForm} {change : Change}
    (hchange : ∀ {form : TableForm} {entries result : Entries}, entries.Distinct →
      change form entries = some result → result.Distinct)
    {path : List String} {form : TableForm} {entries result : Entries} (hd : entries.Distinct)
    (h : changeAt made change path form entries = some result) : result.Distinct := by
  cases path with
  | nil => exact hchange hd h
  | cons step path =>
    rw [changeAt] at h
    split at h
    · next hlookup =>
      obtain ⟨inner, -, rfl⟩ := Option.map_eq_some_iff.mp h
      exact hd.append (not_mem_of_lookup hlookup) _
    · cases h
    · split at h
      · cases h
      · obtain ⟨inner, -, rfl⟩ := Option.map_eq_some_iff.mp h
        exact hd.replace _ _
    · split at h
      · cases h
      · obtain ⟨inner, -, rfl⟩ := Option.map_eq_some_iff.mp h
        exact hd.replace _ _

/-- A key with its value keeps names distinct. -/
theorem addPair_distinct {key : Key} {item : Item} {entries result : Entries}
    (hd : entries.Distinct) (h : entries.addPair key item = some result) : result.Distinct := by
  refine changeAt_distinct (fun {form inner later} hi hc => ?_) hd h
  split at hc
  · cases hc
  · next hfree =>
    cases hc
    refine hi.append (fun hm => hfree ?_) item
    obtain ⟨entry, he, hname⟩ := List.mem_map.mp hm
    have hhas : inner.has key.name = true :=
      List.any_eq_true.mpr ⟨entry, he, beq_iff_eq.mpr hname⟩
    rw [hhas, Bool.or_true]

end Entries

/-- Putting a table in its place keeps names distinct. -/
theorem OpenTable.placeIn_distinct {table : OpenTable} {root result : Entries}
    (hd : root.Distinct) (h : table.placeIn root = some result) : result.Distinct := by
  refine Entries.changeAt_distinct (fun {form inner later} hi hc => ?_) hd h
  split at hc
  · next hlookup =>
    cases hc
    exact hi.append (Entries.not_mem_of_lookup hlookup) _
  · cases hc
    exact hi.replace _ _
  · cases hc
  · next hlookup =>
    cases hc
    exact hi.append (Entries.not_mem_of_lookup hlookup) _
  · cases hc
    exact hi.replace _ _
  · cases hc

namespace Draft

/-- Completing a table keeps the names of the root distinct. -/
theorem close_distinct {draft result : Draft} (hd : draft.root.Distinct)
    (h : draft.close = some result) : result.root.Distinct := by
  unfold close at h
  split at h
  · cases h
    exact hd
  · obtain ⟨root, hroot, rfl⟩ := Option.map_eq_some_iff.mp h
    exact OpenTable.placeIn_distinct hd hroot

/-- Opening a table keeps the names of the root distinct. -/
theorem openTable_distinct {draft result : Draft} {key : Key} {span : Span}
    (hd : draft.root.Distinct) (h : draft.openTable key span = some result) :
    result.root.Distinct := by
  simp only [openTable, Option.bind_eq_bind, Option.bind_eq_some_iff] at h
  obtain ⟨closed, hclose, root, hroot, hresult⟩ := h
  cases hresult
  refine Entries.changeAt_distinct (fun {form inner later} hi hc => ?_)
    (close_distinct hd hclose) hroot
  split at hc
  · cases hc
    exact hi
  · cases hc
    exact hi.filter _
  · cases hc

/-- Opening a row of an array keeps the names of the root distinct. -/
theorem openRow_distinct {draft result : Draft} {key : Key} {span : Span}
    (hd : draft.root.Distinct) (h : draft.openRow key span = some result) :
    result.root.Distinct := by
  simp only [openRow, Option.bind_eq_bind, Option.bind_eq_some_iff] at h
  obtain ⟨closed, hclose, root, hroot, hresult⟩ := h
  cases hresult
  refine Entries.changeAt_distinct (fun {form inner later} hi hc => ?_)
    (close_distinct hd hclose) hroot
  split at hc
  · cases hc
    exact hi
  · cases hc
    exact hi
  · cases hc

/-- Every statement keeps the names of the root distinct. -/
theorem add_distinct {draft result : Draft} {statement : Statement} (hd : draft.root.Distinct)
    (h : draft.add statement = some result) : result.root.Distinct := by
  cases statement with
  | pair key value span =>
    change draft.addPair key value span = some result at h
    unfold addPair at h
    split at h
    · obtain ⟨root, hroot, rfl⟩ := Option.map_eq_some_iff.mp h
      exact Entries.addPair_distinct hd hroot
    · obtain ⟨entries, -, rfl⟩ := Option.map_eq_some_iff.mp h
      exact hd
  | header key span => exact openTable_distinct hd h
  | arrayHeader key span => exact openRow_distinct hd h

/-- A run of statements keeps the names of the root distinct. -/
theorem foldlM_add_distinct {draft result : Draft} {read : List Statement}
    (hd : draft.root.Distinct) (h : read.foldlM add draft = some result) :
    result.root.Distinct := by
  induction read generalizing draft with
  | nil =>
    cases h
    exact hd
  | cons statement later ih =>
    rw [List.foldlM_cons] at h
    obtain ⟨next, hnext, hlater⟩ := Option.bind_eq_some_iff.mp h
    exact ih (add_distinct hd hnext) hlater

end Draft

/-- The root table of a document has no two entries of one name. -/
theorem Document.read_distinct {source : List Char} {document : Document}
    (h : Document.read source = some document) : document.entries.Distinct := by
  simp only [read, Option.bind_eq_bind, Option.bind_eq_some_iff] at h
  obtain ⟨read, -, gathered, hgathered, closed, hclosed, hdocument⟩ := h
  cases hdocument
  have hempty : (⟨[], none, none⟩ : Draft).root.Distinct := Entries.distinct_nil
  exact Draft.close_distinct (Draft.foldlM_add_distinct hempty hgathered) hclosed

end TrayIndicator.Toml
