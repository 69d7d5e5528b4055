import TrayIndicator.Toml.Statement

/-!
# Documents

The statements of a text are gathered into one table. A table is explicit
once a header has opened it, implied while only headers of tables within it
have named it, and dotted when dotted keys have made it. No entry is defined
twice; a header may open an implied table once, and a dotted key may go on
through implied and dotted tables but not into explicit ones.
-/

namespace TrayIndicator.Toml

/-- How a table came to be. -/
inductive TableForm where
  /-- Opened by its own header. -/
  | explicit
  /-- Named only as a step of a header's path. -/
  | implied
  /-- Made by dotted keys. -/
  | dotted
  deriving DecidableEq

/-- What a key of a document holds. -/
inductive Item where
  /-- A value, with its place. -/
  | value (value : Value) (span : Span)
  /-- A table; only an explicit one has a place, from its header to the end of
  its last value. -/
  | table (form : TableForm) (entries : List (String × Item)) (span : Option Span)
  /-- An array of tables, each with its place; there is at least one. -/
  | tables (rows : List (List (String × Item) × Span))

/-- Entries in order of definition. -/
abbrev Entries := List (String × Item)

/-- The entries with one item exchanged, in its place. -/
def Entries.replace (entries : Entries) (name : String) (item : Item) : Entries :=
  entries.map fun entry => if entry.1 == name then (name, item) else entry

/-- Is the name taken? -/
def Entries.has (entries : Entries) (name : String) : Bool := entries.any (·.1 == name)

/-- Where entries are changed: within the entries of the table at the end of a
path, whose form is told. -/
abbrev Change := TableForm → Entries → Option Entries

/-- Applies a change at the end of a path. Tables missing on the way are made
in the form given; a dotted path may not enter an explicit table, and an array
of tables is entered at its last one. -/
def Entries.changeAt (made : TableForm) (change : Change) :
    List String → TableForm → Entries → Option Entries
  | [], form, entries => change form entries
  | step :: path, _, entries =>
    match entries.lookup step with
    | none =>
      (changeAt made change path made []).map fun inner =>
        entries ++ [(step, .table made inner none)]
    | some (.value _ _) => none
    | some (.table form inner span) =>
      if made = .dotted ∧ form = .explicit then none
      else
        (changeAt made change path form inner).map fun inner =>
          entries.replace step (.table form inner span)
    | some (.tables rows) =>
      match rows.getLast? with
      | none => none
      | some (inner, span) =>
        (changeAt made change path .explicit inner).map fun inner =>
          entries.replace step (.tables (rows.dropLast ++ [(inner, span)]))

/-- Adds a key with its value to a table. A dotted key ends in a table of
dotted keys, and no other key does. -/
def Entries.addPair (key : Key) (item : Item) (entries : Entries) : Option Entries :=
  entries.changeAt .dotted (fun form inner =>
    if decide (form = .dotted) == key.path.isEmpty || inner.has key.name then none
    else some (inner ++ [(key.name, item)])) key.path .explicit

/-- The table whose header was read last, apart from the document until it is
complete. -/
structure OpenTable where
  /-- Where the header puts it. -/
  key : Key
  /-- Is it a further table of an array? -/
  inArray : Bool
  /-- Its entries so far. -/
  entries : Entries
  /-- From its header to the end of its last value. -/
  span : Span

/-- A document while its statements are gathered. -/
structure Draft where
  /-- The entries of the root table. -/
  root : Entries
  /-- The text after the last value that belongs to the root itself. -/
  rootStop : Option (List Char)
  /-- The table whose header was read last. -/
  current : Option OpenTable

/-- Puts a completed table where its header says. -/
def OpenTable.placeIn (table : OpenTable) (root : Entries) : Option Entries :=
  root.changeAt .implied (fun _ entries =>
    match table.inArray, entries.lookup table.key.name with
    | true, none => some (entries ++ [(table.key.name, .tables [(table.entries, table.span)])])
    | true, some (.tables rows) =>
      some (entries.replace table.key.name (.tables (rows ++ [(table.entries, table.span)])))
    | true, some _ => none
    | false, none =>
      some (entries ++ [(table.key.name, .table .explicit table.entries (some table.span))])
    | false, some (.table .implied _ _) =>
      some (entries.replace table.key.name (.table .explicit table.entries (some table.span)))
    | false, some _ => none) table.key.path .explicit

/-- Completes the table whose header was read last. -/
def Draft.close (draft : Draft) : Option Draft :=
  match draft.current with
  | none => some draft
  | some table => (table.placeIn draft.root).map fun root => { draft with root, current := none }

/-- The item at the end of a path of tables, if there is one. -/
def Entries.find? : List String → String → Entries → Option Item
  | [], name, entries => entries.lookup name
  | step :: path, name, entries =>
    match entries.lookup step with
    | some (.table _ inner _) => find? path name inner
    | some (.tables rows) =>
      match rows.getLast? with
      | some (inner, _) => find? path name inner
      | none => none
    | _ => none

/-- Opens a table by its header. What an implied table holds already moves into
the opened one, which takes its place at the end. -/
def Draft.openTable (draft : Draft) (key : Key) (span : Span) : Option Draft := do
  let draft ← draft.close
  let root ← draft.root.changeAt .implied (fun _ entries =>
    match entries.lookup key.name with
    | none => some entries
    | some (.table .implied _ _) => some (entries.filter (·.1 != key.name))
    | some _ => none) key.path .explicit
  let entries :=
    match draft.root.find? key.path key.name with
    | some (.table _ inner _) => inner
    | _ => []
  some { draft with root, current := some ⟨key, false, entries, span⟩ }

/-- Opens a further table of an array by its header. -/
def Draft.openRow (draft : Draft) (key : Key) (span : Span) : Option Draft := do
  let draft ← draft.close
  let root ← draft.root.changeAt .implied (fun _ entries =>
    match entries.lookup key.name with
    | none => some entries
    | some (.tables _) => some entries
    | some _ => none) key.path .explicit
  some { draft with root, current := some ⟨key, true, [], span⟩ }

/-- Adds a key with its value to the table whose header was read last. -/
def Draft.addPair (draft : Draft) (key : Key) (value : Value) (span : Span) : Option Draft :=
  match draft.current with
  | none =>
    (draft.root.addPair key (.value value span)).map fun root =>
      { draft with root, rootStop := some span.stop }
  | some table =>
    (table.entries.addPair key (.value value span)).map fun entries =>
      { draft with current := some { table with entries, span := ⟨table.span.start, span.stop⟩ } }

/-- Gathers one statement. -/
def Draft.add (draft : Draft) : Statement → Option Draft
  | .pair key value span => draft.addPair key value span
  | .header key span => draft.openTable key span
  | .arrayHeader key span => draft.openRow key span

/-- A document: the text it was read from and its root table. -/
structure Document where
  /-- The whole text. -/
  source : List Char
  /-- The entries of the root table in order of definition. -/
  entries : Entries
  /-- From the beginning to the end of the root's own last value; nothing if it
  has none. -/
  span : Span

/-- The document that a text spells; `none` if the text is not of the format. -/
def Document.read (source : List Char) : Option Document := do
  let read ← statements source
  let draft ← read.foldlM Draft.add ⟨[], none, none⟩
  let draft ← draft.close
  some ⟨source, draft.root, ⟨source, draft.rootStop.getD source⟩⟩

/-- The place that a complaint about an item names. Implied and dotted tables
have none of their own; the root's stands for it. -/
def Document.spanOf (document : Document) : Item → Span
  | .value _ span => span
  | .table _ _ span => span.getD document.span
  | .tables rows =>
    match rows.head?, rows.getLast? with
    | some (_, first), some (_, last) => ⟨first.start, last.stop⟩
    | _, _ => document.span

end TrayIndicator.Toml
