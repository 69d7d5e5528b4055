import TrayIndicator.Proofs.Toml.DistinctNames

/-!
# The order of the root table

The entries of a document's root table stand in the order in which the
statements of its text define their names. A name is defined where a statement
first names it; only a table that headers of its subtables have named before its
own header counts from its own. Pairs below a header define nothing in the root.
-/

namespace TrayIndicator.Toml

/-- The name in the root table at which a key begins. -/
def Key.first (key : Key) : String := key.path.headD key.name

/-- Names with one more behind them, unless it is among them already. -/
def withName (names : List String) (name : String) : List String :=
  if name ∈ names then names else names ++ [name]

/-- A name that was put behind others is among them. -/
theorem withName_withName (names : List String) (name : String) :
    withName (withName names name) name = withName names name := by
  by_cases h : name ∈ names <;> simp [withName, h]

namespace Statement

/-- Does a statement end the pairs of the root table? -/
def isHeader : Statement → Bool
  | .pair _ _ _ => false
  | .header _ _ | .arrayHeader _ _ => true

/-- The names of the root table after a statement. A pair counts only while it
belongs to the root, and a table's own header puts its name last. -/
def define (inRoot : Bool) (names : List String) : Statement → List String
  | .pair key _ _ => if inRoot then withName names key.first else names
  | .header ⟨[], name⟩ _ => names.filter (· ≠ name) ++ [name]
  | .header key _ | .arrayHeader key _ => withName names key.first

/-- The names of the root table after further statements. -/
def defineAll : Bool → List String → List Statement → List String
  | _, names, [] => names
  | inRoot, names, statement :: later =>
    defineAll (inRoot && !statement.isHeader) (statement.define inRoot names) later

end Statement

/-- The names that statements define in the root table, in order. -/
def rootNames (read : List Statement) : List String := Statement.defineAll true [] read

/-- An appended entry is the last name. -/
theorem withName_of_lookup {entries : Entries} {name : String} (h : entries.lookup name = none)
    (item : Item) :
    (entries ++ [(name, item)]).map Prod.fst = withName (entries.map Prod.fst) name := by
  rw [withName, if_neg (Entries.not_mem_of_lookup h)]
  simp

/-- An exchanged entry keeps its place among the names. -/
theorem withName_of_replace {entries : Entries} {name : String} {found : Item}
    (h : entries.lookup name = some found) (item : Item) :
    (entries.replace name item).map Prod.fst = withName (entries.map Prod.fst) name := by
  rw [withName, if_pos (Entries.mem_of_lookup h), Entries.map_fst_replace]

/-- A change along a path touches the names of the root only at its first step. -/
theorem Entries.changeAt_names {made : TableForm} {change : Change} {step : String}
    {path : List String} {form : TableForm} {entries result : Entries}
    (h : changeAt made change (step :: path) form entries = some result) :
    result.map Prod.fst = withName (entries.map Prod.fst) step := by
  rw [changeAt] at h
  split at h
  · next hlookup =>
    obtain ⟨inner, -, rfl⟩ := Option.map_eq_some_iff.mp h
    exact withName_of_lookup hlookup _
  · cases h
  · next hlookup =>
    split at h
    · cases h
    · obtain ⟨inner, -, rfl⟩ := Option.map_eq_some_iff.mp h
      exact withName_of_replace hlookup _
  · next hlookup =>
    split at h
    · cases h
    · obtain ⟨inner, -, rfl⟩ := Option.map_eq_some_iff.mp h
      exact withName_of_replace hlookup _

/-- A key with its value puts the first part of the key among the names. -/
theorem Entries.addPair_names {key : Key} {item : Item} {entries result : Entries}
    (h : entries.addPair key item = some result) :
    result.map Prod.fst = withName (entries.map Prod.fst) key.first := by
  obtain ⟨path, name⟩ := key
  cases path with
  | cons step path => exact changeAt_names h
  | nil =>
    simp only [addPair, changeAt] at h
    split at h
    · cases h
    · next hfree =>
      cases h
      have hlookup : entries.lookup name = none := by
        refine lookup_of_not_mem fun hm => hfree ?_
        obtain ⟨entry, he, hname⟩ := List.mem_map.mp hm
        have hhas : entries.has name = true :=
          List.any_eq_true.mpr ⟨entry, he, beq_iff_eq.mpr hname⟩
        rw [hhas, Bool.or_true]
      exact withName_of_lookup hlookup item

/-- A completed table puts the first part of its key among the names. -/
theorem OpenTable.placeIn_names {table : OpenTable} {root result : Entries}
    (h : table.placeIn root = some result) :
    result.map Prod.fst = withName (root.map Prod.fst) table.key.first := by
  obtain ⟨⟨path, name⟩, inArray, entries, span⟩ := table
  cases path with
  | cons step path => exact Entries.changeAt_names h
  | nil =>
    simp only [placeIn, Entries.changeAt] at h
    split at h
    · next hlookup => cases h; exact withName_of_lookup hlookup _
    · next hlookup => cases h; exact withName_of_replace hlookup _
    · cases h
    · next hlookup => cases h; exact withName_of_lookup hlookup _
    · next hlookup => cases h; exact withName_of_replace hlookup _
    · cases h

namespace Draft

/-- The names of the root table once the table whose header was read last is in
its place. -/
def names (draft : Draft) : List String :=
  match draft.current with
  | none => draft.root.map Prod.fst
  | some table => withName (draft.root.map Prod.fst) table.key.first

/-- Completing a table gives the names that were due. -/
theorem close_names {draft result : Draft} (h : draft.close = some result) :
    result.root.map Prod.fst = draft.names := by
  unfold close at h
  split at h
  · next hcurrent =>
    cases h
    rw [names, hcurrent]
  · next table hcurrent =>
    obtain ⟨root, hroot, rfl⟩ := Option.map_eq_some_iff.mp h
    rw [names, hcurrent]
    exact OpenTable.placeIn_names hroot

/-- The header of a table puts the table's name last, and any other header the
first part of its key among the names. -/
theorem openTable_names {draft result : Draft} {key : Key} {span : Span}
    (h : draft.openTable key span = some result) (inRoot : Bool) :
    result.names = (Statement.header key span).define inRoot draft.names ∧
      result.current.isNone = false := by
  simp only [openTable, Option.bind_eq_bind, Option.bind_eq_some_iff] at h
  obtain ⟨closed, hclose, root, hroot, hresult⟩ := h
  have hnames := close_names hclose
  cases hresult
  refine ⟨?_, rfl⟩
  obtain ⟨path, name⟩ := key
  cases path with
  | cons step path =>
    change withName (root.map Prod.fst) step = withName draft.names step
    rw [Entries.changeAt_names hroot, hnames, withName_withName]
  | nil =>
    -- the table moves to the end, whether headers of subtables have named it or not
    have hrest : root.map Prod.fst = draft.names.filter (· ≠ name) := by
      simp only [Entries.changeAt] at hroot
      split at hroot
      · next hlookup =>
        cases hroot
        have hfree := Entries.not_mem_of_lookup hlookup
        rw [← hnames, List.filter_eq_self.mpr]
        intro other hm
        exact decide_eq_true fun he => hfree (he ▸ hm)
      · cases hroot
        rw [← hnames, List.filter_map]
        congr 1
        exact List.filter_congr fun entry _ => by
          by_cases he : entry.1 = name <;> simp [he]
      · cases hroot
    change withName (root.map Prod.fst) name = draft.names.filter (· ≠ name) ++ [name]
    rw [hrest, withName, if_neg (by simp)]

/-- The header of a row puts the first part of its key among the names. -/
theorem openRow_names {draft result : Draft} {key : Key} {span : Span}
    (h : draft.openRow key span = some result) (inRoot : Bool) :
    result.names = (Statement.arrayHeader key span).define inRoot draft.names ∧
      result.current.isNone = false := by
  simp only [openRow, Option.bind_eq_bind, Option.bind_eq_some_iff] at h
  obtain ⟨closed, hclose, root, hroot, hresult⟩ := h
  have hnames := close_names hclose
  cases hresult
  refine ⟨?_, rfl⟩
  obtain ⟨path, name⟩ := key
  cases path with
  | cons step path =>
    change withName (root.map Prod.fst) step = withName draft.names step
    rw [Entries.changeAt_names hroot, hnames, withName_withName]
  | nil =>
    have hsame : root = closed.root := by
      simp only [Entries.changeAt] at hroot
      split at hroot
      · cases hroot; rfl
      · cases hroot; rfl
      · cases hroot
    change withName (root.map Prod.fst) name = withName draft.names name
    rw [hsame, hnames]

/-- A pair puts the first part of its key among the names, if it belongs to the
root, and leaves the table of the last header open. -/
theorem addPair_names {draft result : Draft} {key : Key} {value : Value} {span : Span}
    (h : draft.addPair key value span = some result) :
    result.names = (Statement.pair key value span).define draft.current.isNone draft.names ∧
      result.current.isNone = draft.current.isNone := by
  unfold addPair at h
  split at h
  · next hcurrent =>
    obtain ⟨root, hroot, rfl⟩ := Option.map_eq_some_iff.mp h
    simp only [names, hcurrent, Statement.define, Option.isNone_none, if_true, and_true]
    exact Entries.addPair_names hroot
  · next table hcurrent =>
    obtain ⟨entries, -, rfl⟩ := Option.map_eq_some_iff.mp h
    simp [names, hcurrent, Statement.define]

/-- Every statement defines the names that it should. -/
theorem add_names {draft result : Draft} {statement : Statement}
    (h : draft.add statement = some result) :
    result.names = statement.define draft.current.isNone draft.names ∧
      result.current.isNone = (draft.current.isNone && !statement.isHeader) := by
  cases statement with
  | pair key value span =>
    obtain ⟨hnames, hcurrent⟩ := addPair_names h
    exact ⟨hnames, by rw [hcurrent]; simp [Statement.isHeader]⟩
  | header key span =>
    obtain ⟨hnames, hcurrent⟩ := openTable_names h draft.current.isNone
    exact ⟨hnames, by rw [hcurrent]; simp [Statement.isHeader]⟩
  | arrayHeader key span =>
    obtain ⟨hnames, hcurrent⟩ := openRow_names h draft.current.isNone
    exact ⟨hnames, by rw [hcurrent]; simp [Statement.isHeader]⟩

/-- A run of statements defines the names that it should. -/
theorem foldlM_add_names {draft result : Draft} {read : List Statement}
    (h : read.foldlM add draft = some result) :
    result.names = Statement.defineAll draft.current.isNone draft.names read := by
  induction read generalizing draft with
  | nil =>
    cases h
    rfl
  | cons statement later ih =>
    rw [List.foldlM_cons] at h
    obtain ⟨next, hnext, hlater⟩ := Option.bind_eq_some_iff.mp h
    obtain ⟨hnames, hcurrent⟩ := add_names hnext
    rw [ih hlater, hnames, hcurrent]
    rfl

end Draft

/-- The entries of a document's root table stand in the order in which its
statements define their names. -/
theorem Document.read_names {source : List Char} {document : Document}
    (h : Document.read source = some document) :
    ∃ read, statements source = some read ∧
      document.entries.map Prod.fst = rootNames read := by
  simp only [read, Option.bind_eq_bind, Option.bind_eq_some_iff] at h
  obtain ⟨read, hread, gathered, hgathered, closed, hclosed, hdocument⟩ := h
  cases hdocument
  refine ⟨read, hread, ?_⟩
  change closed.root.map Prod.fst = rootNames read
  rw [Draft.close_names hclosed, Draft.foldlM_add_names hgathered]
  rfl

end TrayIndicator.Toml
