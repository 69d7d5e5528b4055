import TrayIndicator.Proofs.Toml.WrittenString
import TrayIndicator.Toml.Document

/-!
# Documents of plain lines

A text of plain lines, each a bare key and a value on the root table, spells
the document that has exactly these entries, in this order. A value may stretch
over several lines of the text. Nothing is said of headers or dotted keys.
-/

namespace TrayIndicator.Toml

/-- A bare key with a value as it is written. -/
structure PlainLine where
  /-- The key. -/
  name : String
  /-- The characters that spell the value. -/
  written : List Char
  /-- The value that they spell. -/
  held : Value

namespace PlainLine

/-- The line as it stands in a text. -/
def text (ending : LineEnd) (line : PlainLine) : List Char :=
  line.name.toList ++ [' ', '=', ' '] ++ line.written ++ ending.chars

/-- What makes a line readable: a bare key, and a value that begins with no
space and is read back before the end of the line. -/
structure Readable (ending : LineEnd) (line : PlainLine) : Prop where
  /-- There is a key. -/
  nonempty : line.name.toList ≠ []
  /-- The key needs no quotes. -/
  bare : ∀ c ∈ line.name.toList, isBare c = true
  /-- The value begins at its first character. -/
  unspaced : ∀ rest, skipSpaces (line.written ++ rest) = line.written ++ rest
  /-- The value is what the characters spell. -/
  reads : ∀ rest, value (line.written ++ (ending.chars ++ rest)) =
    some (line.held, ending.chars ++ rest)

/-- The place of a line's value before further lines. -/
def span (ending : LineEnd) (line : PlainLine) (later : List PlainLine) : Span :=
  ⟨line.written ++ (ending.chars ++ later.flatMap (text ending)),
    ending.chars ++ later.flatMap (text ending)⟩

/-- The statements that lines spell. -/
def statementsOf (ending : LineEnd) : List PlainLine → List Statement
  | [] => []
  | line :: later =>
    .pair ⟨[], line.name⟩ line.held (line.span ending later) :: statementsOf ending later

/-- The entries that lines spell. -/
def entriesOf (ending : LineEnd) : List PlainLine → Entries
  | [] => []
  | line :: later =>
    (line.name, .value line.held (line.span ending later)) :: entriesOf ending later

end PlainLine

/-- A character of a bare key is none of the marks. -/
theorem ne_of_isBare {c d : Char} (hc : isBare c = true) (hd : isBare d = false) : c ≠ d := by
  rintro rfl
  rw [hc] at hd
  cases hd

/-- Nothing is skipped before a character of a bare key. -/
theorem skipSpaces_of_isBare {c : Char} (hc : isBare c = true) (rest : List Char) :
    skipSpaces (c :: rest) = c :: rest := by
  have hspace : isSpace c = false := by
    simp [isSpace, ne_of_isBare hc (d := ' ') (by decide), ne_of_isBare hc (d := '\t') (by decide)]
  simp [skipSpaces, hspace]

/-- No line ends before a character of a bare key. -/
theorem lineEnd?_of_isBare {c : Char} (hc : isBare c = true) (rest : List Char) :
    lineEnd? (c :: rest) = none := by
  have hmark := ne_of_isBare hc (d := '#') (by decide)
  have hfeed := ne_of_isBare hc (d := '\n') (by decide)
  have hreturn := ne_of_isBare hc (d := '\r') (by decide)
  have hcomment : skipComment (c :: rest) = c :: rest := by
    unfold skipComment
    split <;> simp_all
  simp only [lineEnd?, skipSpaces_of_isBare hc, hcomment]
  unfold newline?
  split <;> simp_all

/-- A line ends where its end is written. -/
theorem lineEnd?_chars (ending : LineEnd) (rest : List Char) :
    lineEnd? (ending.chars ++ rest) = some rest := by
  cases ending <;> rfl

/-- A bare key is read up to the first character that belongs to none. -/
theorem simpleKey_bare {name : List Char} {c : Char} (hne : name ≠ [])
    (h : ∀ d ∈ name, isBare d = true) (hc : isBare c = false) (rest : List Char) :
    simpleKey (name ++ c :: rest) = some (name, c :: rest) := by
  have htake : (name ++ c :: rest).takeWhile isBare = name := by
    rw [List.takeWhile_append_of_pos h, List.takeWhile_cons_of_neg (by simp [hc]),
      List.append_nil]
  have hdrop : (name ++ c :: rest).dropWhile isBare = c :: rest := by
    rw [List.dropWhile_append_of_pos h, List.dropWhile_cons_of_neg (by simp [hc])]
  match name with
  | [] => exact absurd rfl hne
  | d :: name =>
    have hd := h d List.mem_cons_self
    have hdouble := ne_of_isBare hd (d := '"') (by decide)
    have hsingle := ne_of_isBare hd (d := '\'') (by decide)
    rw [List.cons_append] at htake hdrop ⊢
    unfold simpleKey
    split <;> simp_all

/-- A bare key before an equals sign is a key of one part. -/
theorem key_bare {name : String} (hne : name.toList ≠ [])
    (h : ∀ d ∈ name.toList, isBare d = true) (rest : List Char) :
    key (name.toList ++ ' ' :: '=' :: rest) = some (⟨[], name⟩, '=' :: rest) := by
  have hskip : skipSpaces (name.toList ++ ' ' :: '=' :: rest) =
      name.toList ++ ' ' :: '=' :: rest := by
    match hname : name.toList with
    | [] => exact absurd hname hne
    | c :: chars => exact skipSpaces_of_isBare (h c (by simp [hname])) _
  have hparts : keyParts greatestDepth (name.toList ++ ' ' :: '=' :: rest) =
      some ([name], '=' :: rest) := by
    rw [greatestDepth, keyParts, hskip, simpleKey_bare hne h (by decide)]
    change some ([String.ofList name.toList], '=' :: rest) = _
    rw [String.ofList_toList]
  rw [key, hparts]
  rfl

namespace PlainLine

variable {ending : LineEnd} {line : PlainLine}

/-- A line begins with a character of its key. -/
theorem Readable.text_eq_cons (h : line.Readable ending) :
    ∃ c chars, isBare c = true ∧ line.name.toList = c :: chars := by
  match hname : line.name.toList with
  | [] => exact absurd hname h.nonempty
  | c :: chars => exact ⟨c, chars, h.bare c (by simp [hname]), rfl⟩

/-- A line is read as the statement that it spells, up to its end. -/
theorem Readable.statement_text (h : line.Readable ending) (later : List PlainLine) :
    statement (line.text ending ++ later.flatMap (text ending)) =
      some (.pair ⟨[], line.name⟩ line.held (line.span ending later),
        ending.chars ++ later.flatMap (text ending)) := by
  have hkey := key_bare h.nonempty h.bare
    (' ' :: (line.written ++ (ending.chars ++ later.flatMap (text ending))))
  have hskip : skipSpaces (' ' :: (line.written ++
      (ending.chars ++ later.flatMap (text ending)))) =
      line.written ++ (ending.chars ++ later.flatMap (text ending)) := h.unspaced _
  have hpair : pair (line.text ending ++ later.flatMap (text ending)) =
      some (.pair ⟨[], line.name⟩ line.held (line.span ending later),
        ending.chars ++ later.flatMap (text ending)) := by
    simp only [text, List.append_assoc, List.cons_append, List.nil_append]
    simp only [pair, hkey, hskip, h.reads, span]
  obtain ⟨c, chars, hc, hname⟩ := h.text_eq_cons
  have hbracket := ne_of_isBare hc (d := '[') (by decide)
  rw [← hpair, text, hname]
  simp only [List.cons_append]
  unfold statement
  split <;> simp_all

/-- A line is the first statement of a text. -/
theorem Readable.statementsWithin_text (h : line.Readable ending) (later : List PlainLine)
    (count : Nat) :
    statementsWithin (count + 1) (line.text ending ++ later.flatMap (text ending)) =
      (statementsWithin count (later.flatMap (text ending))).map
        (.pair ⟨[], line.name⟩ line.held (line.span ending later) :: ·) := by
  have hstatement := h.statement_text later
  obtain ⟨c, chars, hc, hname⟩ := h.text_eq_cons
  have htext : line.text ending ++ later.flatMap (text ending) =
      c :: (chars ++ ' ' :: '=' :: ' ' :: line.written ++ ending.chars ++
        later.flatMap (text ending)) := by
    simp [text, hname]
  rw [htext] at hstatement ⊢
  rw [statementsWithin, skipSpaces_of_isBare hc]
  simp only [lineEnd?_of_isBare hc, hstatement, lineEnd?_chars]

/-- Readable lines are read as the statements that they spell. -/
theorem statementsWithin_flatMap {lines : List PlainLine}
    (h : ∀ line ∈ lines, line.Readable ending) {count : Nat} (hcount : lines.length < count) :
    statementsWithin count (lines.flatMap (text ending)) = some (statementsOf ending lines) := by
  induction lines generalizing count with
  | nil =>
    cases count with
    | zero => exact absurd hcount (by simp)
    | succ count => rfl
  | cons line later ih =>
    cases count with
    | zero => exact absurd hcount (by simp)
    | succ count =>
      have hlater := ih (fun other hm => h other (List.mem_cons_of_mem line hm))
        (Nat.lt_of_succ_lt_succ hcount)
      rw [List.flatMap_cons, (h line List.mem_cons_self).statementsWithin_text, hlater]
      rfl

/-- A text has at least as many characters as lines. -/
theorem length_le_length_flatMap (ending : LineEnd) (lines : List PlainLine) :
    lines.length ≤ (lines.flatMap (text ending)).length := by
  induction lines with
  | nil => exact Nat.le_refl 0
  | cons line later ih =>
    have hline : 0 < (line.text ending).length := by
      simp only [text, List.length_append, List.length_cons]
      omega
    rw [List.flatMap_cons, List.length_append, List.length_cons]
    omega

/-- Lines begin with no byte order mark. -/
theorem skipByteOrderMark_flatMap {lines : List PlainLine}
    (h : ∀ line ∈ lines, line.Readable ending) :
    skipByteOrderMark (lines.flatMap (text ending)) = lines.flatMap (text ending) := by
  match lines with
  | [] => rfl
  | line :: later =>
    obtain ⟨c, chars, hc, hname⟩ := (h line List.mem_cons_self).text_eq_cons
    have hmark := ne_of_isBare hc (d := '\uFEFF') (by decide)
    simp only [List.flatMap_cons, text, hname, List.cons_append]
    unfold skipByteOrderMark
    split <;> simp_all

/-- Readable lines are the statements of their text, with a byte order mark in
front or without. -/
theorem statements_flatMap {lines : List PlainLine} (h : ∀ line ∈ lines, line.Readable ending)
    (marked : Bool) :
    statements ((if marked then ['\uFEFF'] else []) ++ lines.flatMap (text ending)) =
      some (statementsOf ending lines) := by
  have hlength := length_le_length_flatMap ending lines
  cases marked with
  | false =>
    rw [if_neg Bool.false_ne_true, List.nil_append, statements, skipByteOrderMark_flatMap h]
    exact statementsWithin_flatMap h (by omega)
  | true =>
    rw [if_pos rfl, List.singleton_append, statements]
    exact statementsWithin_flatMap h (by rw [List.length_cons]; omega)

/-- A key with no path is added at the end of the root table. -/
theorem addPair_root {root : Entries} {name : String} (h : name ∉ root.map Prod.fst)
    (stop : Option (List Char)) (held : Value) (span : Span) :
    Draft.add ⟨root, stop, none⟩ (.pair ⟨[], name⟩ held span) =
      some ⟨root ++ [(name, .value held span)], some span.stop, none⟩ := by
  have hhas : root.has name = false := by
    rw [Entries.has, List.any_eq_false]
    intro entry hm heq
    exact h (List.mem_map.mpr ⟨entry, hm, beq_iff_eq.mp heq⟩)
  simp [Draft.add, Draft.addPair, Entries.addPair, Entries.changeAt, hhas]

/-- Lines with different keys are gathered into their entries. -/
theorem foldlM_statementsOf (ending : LineEnd) (lines : List PlainLine) (root : Entries)
    (stop : Option (List Char)) (h : (root.map Prod.fst ++ lines.map name).Nodup) :
    ∃ last, (statementsOf ending lines).foldlM Draft.add ⟨root, stop, none⟩ =
      some ⟨root ++ entriesOf ending lines, last, none⟩ := by
  induction lines generalizing root stop with
  | nil => exact ⟨stop, by simp [statementsOf, entriesOf]⟩
  | cons line later ih =>
    have hfresh : line.name ∉ root.map Prod.fst := by
      rw [List.map_cons, List.nodup_append] at h
      exact fun hm => h.2.2 line.name hm line.name List.mem_cons_self rfl
    have hlater := ih (root ++ [(line.name, .value line.held (line.span ending later))])
      (some (line.span ending later).stop) (by simpa using h)
    obtain ⟨last, hlast⟩ := hlater
    refine ⟨last, ?_⟩
    rw [statementsOf, List.foldlM_cons, addPair_root hfresh]
    simpa [entriesOf] using hlast

/-- A text whose statements are those of lines with different keys spells the document that
has exactly their entries. -/
theorem read_of_statements {lines : List PlainLine} (hnodup : (lines.map name).Nodup)
    {source : List Char} (h : statements source = some (statementsOf ending lines)) :
    ∃ document, Document.read source = some document ∧
      document.entries = entriesOf ending lines := by
  obtain ⟨last, hlast⟩ := foldlM_statementsOf ending lines [] none (by simpa using hnodup)
  refine ⟨⟨source, entriesOf ending lines, ⟨source, last.getD source⟩⟩, ?_, rfl⟩
  simp [Document.read, h, hlast, Draft.close]

/-- The text of readable lines with different keys spells the document that has
exactly their entries. -/
theorem read_flatMap {lines : List PlainLine} (h : ∀ line ∈ lines, line.Readable ending)
    (hnodup : (lines.map name).Nodup) (marked : Bool) :
    ∃ document, Document.read
        ((if marked then ['\uFEFF'] else []) ++ lines.flatMap (text ending)) = some document ∧
      document.entries = entriesOf ending lines :=
  read_of_statements hnodup (statements_flatMap h marked)

end PlainLine

end TrayIndicator.Toml
