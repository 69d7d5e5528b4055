import TrayIndicator.Toml.Quotation
import TrayIndicator.Toml.Spelling

/-!
# Reading written strings

A string is read back from each of the five forms in which it is written,
whatever follows it but a quote. The lines of the written form may end with a
line feed or with a carriage return before it; both read as a line feed. Only
written strings are covered: a text that spells a string in another way is not.
-/

namespace TrayIndicator.Toml

/-- How the lines of a text end. -/
inductive LineEnd where
  /-- With a line feed. -/
  | feed
  /-- With a carriage return and a line feed. -/
  | returnFeed
  deriving DecidableEq, Repr

namespace LineEnd

/-- The characters at the end of a line. -/
def chars : LineEnd → List Char
  | .feed => ['\n']
  | .returnFeed => ['\r', '\n']

/-- A text with its line feeds exchanged for line ends of one kind. -/
def apply (ending : LineEnd) (source : List Char) : List Char :=
  source.flatMap fun c => if c = '\n' then ending.chars else [c]

/-- The empty text has no line ends. -/
@[simp]
theorem apply_nil (ending : LineEnd) : ending.apply [] = [] := rfl

/-- A line feed becomes a line end. -/
@[simp]
theorem apply_newline (ending : LineEnd) (source : List Char) :
    ending.apply ('\n' :: source) = ending.chars ++ ending.apply source := by
  simp [apply]

/-- Every other character stays. -/
theorem apply_cons {c : Char} (h : c ≠ '\n') (ending : LineEnd) (source : List Char) :
    ending.apply (c :: source) = c :: ending.apply source := by
  simp [apply, h]

/-- Line ends are exchanged piece by piece. -/
@[simp]
theorem apply_append (ending : LineEnd) (first second : List Char) :
    ending.apply (first ++ second) = ending.apply first ++ ending.apply second := by
  simp [apply]

/-- A text of one line stays. -/
theorem apply_of_not_mem (ending : LineEnd) {source : List Char} (h : '\n' ∉ source) :
    ending.apply source = source := by
  induction source with
  | nil => rfl
  | cons c source ih =>
    rw [List.mem_cons, not_or] at h
    rw [apply_cons (Ne.symm h.1), ih h.2]

/-- Line feeds exchanged for line feeds change nothing. -/
@[simp]
theorem apply_feed (source : List Char) : feed.apply source = source := by
  induction source with
  | nil => rfl
  | cons c source ih =>
    by_cases hc : c = '\n'
    · rw [hc, apply_newline, ih]
      rfl
    · rw [apply_cons hc, ih]

/-- Exactly one line end is read off the front. -/
theorem newline?_chars (ending : LineEnd) (rest : List Char) :
    newline? (ending.chars ++ rest) = some rest := by
  cases ending <;> rfl

end LineEnd

/-- A text that no quote begins, so that a string can end before it. -/
def EndsString (rest : List Char) : Prop := rest.head? ≠ some '"' ∧ rest.head? ≠ some '\''

/-- A line end can follow a string. -/
theorem endsString_chars (ending : LineEnd) (rest : List Char) :
    EndsString (ending.chars ++ rest) := by
  cases ending <;> simp [EndsString, LineEnd.chars]

/-- A character outside the controls and the line feed is plain. -/
theorem isPlain_of_isControl_eq_false {c : Char} (hc : isControl c = false) (hn : c ≠ '\n') :
    isPlain c = true := by
  have hdel : c = '\x7f' ↔ c.toNat = 127 := Char.ext_iff.trans UInt32.toNat_inj.symm
  simp only [isControl, isPlain, Bool.and_eq_false_iff, Bool.or_eq_false_iff, Bool.or_eq_true,
    Bool.and_eq_true, decide_eq_true_eq, decide_eq_false_iff_not, bne_eq_false_iff_eq,
    Char.lt_def, Char.le_def, UInt32.lt_iff_toNat_lt, UInt32.le_iff_toNat_le, hdel] at hc ⊢
  change ((¬c.toNat < 32 ∧ ¬c.toNat = 127) ∨ c = '\t') ∨ c = '\n' at hc
  change (c = '\t' ∨ 32 ≤ c.toNat ∧ c.toNat ≤ 126) ∨ 128 ≤ c.toNat
  rcases hc with (hc | hc) | hc
  · omega
  · exact Or.inl (Or.inl hc)
  · exact absurd hc hn

/-- The ways in which a character stands between double quotes. -/
inductive Written (c : Char) : List Char → Prop
  /-- As a backslash with a letter. -/
  | letter {letter : Char} (h : letterEscape? letter = some c) : Written c ['\\', letter]
  /-- As a backslash with its number. -/
  | numbered (h : c.toNat < 256) :
    Written c ['\\', 'u', '0', '0', upperHexDigit (c.toNat / 16), upperHexDigit (c.toNat % 16)]
  /-- As itself. -/
  | plain (h : isBasic c = true) : Written c [c]

/-- Every character but the line feed is written so on several lines. -/
theorem written_escapeInLines {c : Char} (hn : c ≠ '\n') : Written c (escapeInLines c) := by
  unfold escapeInLines
  split
  · next h => exact .letter (by rw [h]; rfl)
  split
  · next h => exact .letter (by rw [h]; rfl)
  split
  · next h => exact .letter (by rw [h]; rfl)
  split
  · next h => exact .letter (by rw [h]; rfl)
  split
  · next h => exact .letter (by rw [h]; rfl)
  split
  · next h => exact .letter (by rw [h]; rfl)
  split
  · next h =>
    refine .numbered ?_
    simp only [isControl, Bool.and_eq_true, Bool.or_eq_true, decide_eq_true_eq, Char.lt_def,
      UInt32.lt_iff_toNat_lt] at h
    rcases h.1.1 with hlow | hdel
    · exact Nat.lt_trans hlow (by decide)
    · rw [hdel]
      decide
  · next hq hb hc =>
    have hplain := isPlain_of_isControl_eq_false (Bool.eq_false_iff.mpr hc) hn
    exact .plain (by simp [isBasic, hplain, hq, hb])

/-- Every character is written so on one line. -/
theorem written_escapeInLine (c : Char) : Written c (escapeInLine c) := by
  unfold escapeInLine
  split
  · next h => exact .letter (by rw [h]; rfl)
  · next h => exact written_escapeInLines h

/-- The two digits of a number below 256 name its character. -/
theorem numbered?_upperHexDigit {n : Nat} (h : n < 256) :
    numbered? ['0', '0', upperHexDigit (n / 16), upperHexDigit (n % 16)] = some (Char.ofNat n) := by
  revert n
  decide +kernel

/-- The digits of a number below 256 are no line feeds. -/
theorem upperHexDigit_ne_newline {n : Nat} (h : n < 16) : upperHexDigit n ≠ '\n' := by
  revert n
  decide

/-- A letter that stands for a character after a backslash is none that stands
for nothing there. -/
theorem ne_of_letterEscape? {letter c d : Char} (h : letterEscape? letter = some c)
    (hd : letterEscape? d = none) : letter ≠ d := by
  rintro rfl
  rw [hd] at h
  cases h

/-- A character that stands for itself in a basic string is none that does not. -/
theorem ne_of_isBasic {c d : Char} (hc : isBasic c = true) (hd : isBasic d = false) : c ≠ d := by
  rintro rfl
  rw [hd] at hc
  cases hc

namespace Written

/-- A written character holds no line feed. -/
theorem newline_not_mem {c : Char} {written : List Char} (h : Written c written) :
    '\n' ∉ written := by
  cases h with
  | letter h =>
    simp only [List.mem_cons, List.not_mem_nil, or_false, not_or]
    exact ⟨by decide, (ne_of_letterEscape? h (by decide)).symm⟩
  | numbered h =>
    have hhigh := upperHexDigit_ne_newline (n := c.toNat / 16) (by omega)
    have hlow := upperHexDigit_ne_newline (n := c.toNat % 16) (by omega)
    simp [hhigh.symm, hlow.symm]
  | plain h =>
    rw [List.mem_singleton]
    exact (ne_of_isBasic h (by decide)).symm

/-- A written character does not begin with the quote that would end it. -/
theorem head?_ne {c : Char} {written : List Char} (h : Written c written) (rest : List Char) :
    (written ++ rest).head? ≠ some '"' := by
  cases h with
  | letter h => simp
  | numbered h => simp
  | plain h =>
    simp only [List.singleton_append, List.head?_cons, ne_eq, Option.some.injEq]
    exact ne_of_isBasic h (by decide)

/-- A written character is read back on one line. -/
theorem basicText_append {c : Char} {written : List Char} (h : Written c written)
    (rest : List Char) : basicText (written ++ rest) = push [c] (basicText rest) := by
  rw [basicText.eq_def]
  cases h with
  | letter h =>
    -- the reader tries the numbered escapes before the letters
    have hu := ne_of_letterEscape? h (d := 'u') (by decide)
    have hU := ne_of_letterEscape? h (d := 'U') (by decide)
    simp [hu, hU, h]
  | numbered h => simp [numbered?_upperHexDigit h, Char.ofNat_toNat]
  | plain h =>
    have hq := ne_of_isBasic h (d := '"') (by decide)
    have hb := ne_of_isBasic h (d := '\\') (by decide)
    simp [hq, hb, h]

/-- A written character is read back on several lines. -/
theorem multiBasicText_append {c : Char} {written : List Char} (h : Written c written)
    (rest : List Char) :
    multiBasicText false (written ++ rest) = push [c] (multiBasicText false rest) := by
  rw [multiBasicText.eq_def]
  cases h with
  | letter h =>
    rename_i letter
    have hu := ne_of_letterEscape? h (d := 'u') (by decide)
    have hU := ne_of_letterEscape? h (d := 'U') (by decide)
    have hfeed := ne_of_letterEscape? h (d := '\n') (by decide)
    have hreturn := ne_of_letterEscape? h (d := '\r') (by decide)
    -- a backslash before spaces and a line end would join the lines instead
    have hspace : isSpace letter = false := by
      simp [isSpace, ne_of_letterEscape? h (d := ' ') (by decide),
        ne_of_letterEscape? h (d := '\t') (by decide)]
    have hline : newline? (letter :: rest) = none := by
      unfold newline?
      split <;> simp_all
    simp [skipSpaces, hspace, hline, hu, hU, h]
  | numbered h =>
    have hline : newline? (skipSpaces ('u' :: '0' :: '0' :: upperHexDigit (c.toNat / 16) ::
        upperHexDigit (c.toNat % 16) :: rest)) = none := rfl
    simp [hline, numbered?_upperHexDigit h, Char.ofNat_toNat]
  | plain h =>
    have hr := ne_of_isBasic h (d := '\r') (by decide)
    have hq := ne_of_isBasic h (d := '"') (by decide)
    have hb := ne_of_isBasic h (d := '\\') (by decide)
    simp [hr, hq, hb, h]

end Written

/-- A text written on one line is read back. -/
theorem basicText_flatMap (text rest : List Char) :
    basicText (text.flatMap escapeInLine ++ '"' :: rest) = some (text, rest) := by
  induction text with
  | nil =>
    rw [List.flatMap_nil, List.nil_append, basicText.eq_def]
    simp
  | cons c text ih =>
    rw [List.flatMap_cons, List.append_assoc, (written_escapeInLine c).basicText_append, ih]
    rfl

/-- Quotes of a kind close a string unless one more follows. -/
theorem closing?_of_head?_ne {quote : Char} {rest : List Char} (h : rest.head? ≠ some quote) :
    closing? quote (quote :: quote :: rest) = some ([], rest) := by
  match rest with
  | [] => simp [closing?]
  | [q] => simp_all [closing?]
  | q :: r :: rest => simp_all [closing?]

/-- A string of several lines does not close before other characters. -/
theorem closing?_eq_none {quote : Char} {rest : List Char}
    (h : rest.head? ≠ some quote ∨ rest.tail.head? ≠ some quote) : closing? quote rest = none := by
  match rest with
  | [] => rfl
  | [q] => rfl
  | q :: r :: rest =>
    simp only [List.head?_cons, ne_eq, Option.some.injEq, List.tail_cons] at h
    rw [closing?.eq_def]
    simp only [ite_eq_right_iff]
    rintro ⟨hq, hr⟩
    rcases h with h | h
    · exact absurd hq h
    · exact absurd hr h

/-- A line end of a string of several lines reads as a line feed. -/
theorem multiBasicText_chars (ending : LineEnd) (rest : List Char) :
    multiBasicText false (ending.chars ++ rest) = push ['\n'] (multiBasicText false rest) := by
  cases ending <;> rw [multiBasicText.eq_def] <;> simp [LineEnd.chars]

/-- A text written on several lines is read back, whatever its line ends. -/
theorem multiBasicText_apply (ending : LineEnd) (text : List Char) {rest : List Char}
    (h : EndsString rest) :
    multiBasicText false
      (ending.apply (text.flatMap escapeInLines) ++ (tripleDouble ++ rest)) =
        some (text, rest) := by
  induction text with
  | nil =>
    rw [List.flatMap_nil, LineEnd.apply_nil, List.nil_append, multiBasicText.eq_def]
    simp [tripleDouble, closing?_of_head?_ne h.1]
  | cons c text ih =>
    rw [List.flatMap_cons, LineEnd.apply_append, List.append_assoc]
    by_cases hc : c = '\n'
    · have happly : ending.apply (escapeInLines c) = ending.chars := by
        rw [hc]
        exact (ending.apply_newline []).trans (List.append_nil _)
      rw [happly, multiBasicText_chars, ih, hc]
      rfl
    · have hw := written_escapeInLines hc
      rw [ending.apply_of_not_mem hw.newline_not_mem, hw.multiBasicText_append, ih]
      rfl

/-- A text without quotes and controls is read back between single quotes. -/
theorem literalText_append {text : List Char} (h : ∀ c ∈ text, isLiteral c = true)
    (rest : List Char) : literalText (text ++ '\'' :: rest) = some (text, rest) := by
  have hquote : isLiteral '\'' = false := by decide
  have hdrop : (text ++ '\'' :: rest).dropWhile isLiteral = '\'' :: rest := by
    rw [List.dropWhile_append_of_pos h, List.dropWhile_cons_of_neg (by simp [hquote])]
  have htake : (text ++ '\'' :: rest).takeWhile isLiteral = text := by
    rw [List.takeWhile_append_of_pos h, List.takeWhile_cons_of_neg (by simp [hquote]),
      List.append_nil]
  simp [literalText, hdrop, htake]

/-- A line end of a literal string of several lines reads as a line feed. -/
theorem multiLiteralText_chars (ending : LineEnd) (rest : List Char) :
    multiLiteralText (ending.chars ++ rest) = push ['\n'] (multiLiteralText rest) := by
  cases ending <;> rw [multiLiteralText.eq_def] <;> simp [LineEnd.chars]

/-- A text that begins with no single quote keeps that with other line ends. -/
theorem LineEnd.head?_apply_ne {c : Char} (h : c ≠ '\'') (ending : LineEnd)
    (source rest : List Char) : (ending.apply (c :: source) ++ rest).head? ≠ some '\'' := by
  by_cases hc : c = '\n'
  · rw [hc, LineEnd.apply_newline]
    cases ending <;> simp [LineEnd.chars]
  · rw [LineEnd.apply_cons hc]
    simp [h]

/-- A single quote within a text that allows a literal form closes nothing:
no two more follow it. -/
theorem closing?_apply_eq_none {text : List Char} (ht : hasTripleQuote ('\'' :: text) = false)
    (hl : ('\'' :: text).getLast? ≠ some '\'') (ending : LineEnd) (rest : List Char) :
    closing? '\'' (ending.apply text ++ rest) = none := by
  -- `rest` begins with the closing quotes, so a text of one character needs `hl`
  match text with
  | [] => exact absurd rfl hl
  | [c] =>
    have hc : c ≠ '\'' := by simpa using hl
    exact closing?_eq_none (Or.inl (LineEnd.head?_apply_ne hc ending [] rest))
  | c :: d :: text =>
    by_cases hc : c = '\''
    · have hd : d ≠ '\'' := by
        rintro rfl
        simp [hasTripleQuote, hc] at ht
      refine closing?_eq_none (Or.inr ?_)
      rw [hc, LineEnd.apply_cons (by decide), List.cons_append, List.tail_cons]
      exact LineEnd.head?_apply_ne hd ending text rest
    · exact closing?_eq_none (Or.inl (LineEnd.head?_apply_ne hc ending (d :: text) rest))

/-- A text that allows a literal form is read back between three single
quotes, whatever its line ends. -/
theorem multiLiteralText_apply (ending : LineEnd) {text rest : List Char}
    (hc : ∀ c ∈ text, isControl c = false) (ht : hasTripleQuote text = false)
    (hl : text.getLast? ≠ some '\'') (h : EndsString rest) :
    multiLiteralText (ending.apply text ++ (tripleSingle ++ rest)) = some (text, rest) := by
  induction text with
  | nil =>
    rw [LineEnd.apply_nil, List.nil_append, multiLiteralText.eq_def]
    simp [tripleSingle, closing?_of_head?_ne h.2]
  | cons c text ih =>
    have htail : hasTripleQuote text = false := (Bool.or_eq_false_iff.mp ht).2
    have hlast : text.getLast? ≠ some '\'' := by
      intro hq
      rw [List.getLast?_cons, hq] at hl
      exact hl rfl
    have hread := ih (fun d hd => hc d (List.mem_cons_of_mem c hd)) htail hlast
    by_cases hn : c = '\n'
    · rw [hn, LineEnd.apply_newline, List.append_assoc, multiLiteralText_chars, hread]
      rfl
    · rw [LineEnd.apply_cons hn, List.cons_append, multiLiteralText.eq_def]
      by_cases hq : c = '\''
      · -- a quote of the text: the reader has to see that it closes nothing
        subst hq
        simp [closing?_apply_eq_none ht hl, hread]
      · have hcontrol := hc c List.mem_cons_self
        have hr : c ≠ '\r' := by rintro rfl; exact absurd hcontrol (by decide)
        have hliteral : isLiteral c = true := by
          simp [isLiteral, isPlain_of_isControl_eq_false hcontrol hn, hq]
        simp [hr, hq, hliteral, hread]

/-- Quotes that do not continue to three open a basic string of one line. -/
theorem stringText_basic {source : List Char}
    (h : source.head? ≠ some '"' ∨ source.tail.head? ≠ some '"') :
    stringText ('"' :: source) = basicText source := by
  unfold stringText
  split <;> simp_all

/-- Quotes that do not continue to three open a literal string of one line. -/
theorem stringText_literal {source : List Char} (h : source.head? ≠ some '\'') :
    stringText ('\'' :: source) = literalText source := by
  unfold stringText
  split <;> simp_all

/-- A written string of several lines drops exactly the line end that was
written after its opening quotes. -/
theorem skipFirstNewline_chars (ending : LineEnd) (rest : List Char) :
    skipFirstNewline (ending.chars ++ rest) = rest := by
  simp [skipFirstNewline, ending.newline?_chars]

/-- A text that begins no line end keeps its beginning. -/
theorem skipFirstNewline_cons {c : Char} (hn : c ≠ '\n') (hr : c ≠ '\r') (rest : List Char) :
    skipFirstNewline (c :: rest) = c :: rest := by
  have h : newline? (c :: rest) = none := by
    unfold newline?
    split <;> simp_all
  simp [skipFirstNewline, h]

/-- What a text that allows a literal form is free of. -/
theorem allowsLiteral_iff (text : List Char) :
    allowsLiteral text = true ↔ (∀ c ∈ text, isControl c = false) ∧
      hasTripleQuote text = false ∧ text.getLast? ≠ some '\'' := by
  simp [allowsLiteral, and_assoc]

/-- The basic form of one line is read back. -/
theorem stringText_write_basic (ending : LineEnd) (text : List Char) {rest : List Char}
    (h : EndsString rest) :
    stringText (ending.apply (StringForm.basic.write text) ++ rest) = some (text, rest) := by
  have hline : '\n' ∉ StringForm.basic.write text := by
    simp only [StringForm.write, List.mem_cons, List.mem_append, List.mem_flatMap,
      List.cons_append, List.not_mem_nil, or_false, not_or, not_exists, not_and]
    exact ⟨by decide, fun c _ => (written_escapeInLine c).newline_not_mem, by decide⟩
  have hopen : (text.flatMap escapeInLine ++ '"' :: rest).head? ≠ some '"' ∨
      (text.flatMap escapeInLine ++ '"' :: rest).tail.head? ≠ some '"' := by
    cases text with
    | nil => exact Or.inr h.1
    | cons c text =>
      rw [List.flatMap_cons, List.append_assoc]
      exact Or.inl ((written_escapeInLine c).head?_ne _)
  rw [ending.apply_of_not_mem hline]
  simp only [StringForm.write, List.cons_append, List.append_assoc, List.nil_append]
  rw [stringText_basic hopen, basicText_flatMap]

/-- The basic form of several lines is read back. -/
theorem stringText_write_multiBasic (ending : LineEnd) (text : List Char) {rest : List Char}
    (h : EndsString rest) :
    stringText (ending.apply (StringForm.multiBasic.write text) ++ rest) = some (text, rest) := by
  have hquotes : ending.apply tripleDouble = tripleDouble := ending.apply_of_not_mem (by decide)
  have hread := multiBasicText_apply ending text h
  simp only [StringForm.write, LineEnd.apply_append, hquotes, LineEnd.apply_newline,
    List.append_assoc]
  rw [← skipFirstNewline_chars ending (ending.apply _ ++ (tripleDouble ++ rest))] at hread
  exact hread

/-- The literal form of one line is read back. -/
theorem stringText_write_literal (ending : LineEnd) {text : List Char} (rest : List Char)
    (hc : ∀ c ∈ text, isLiteral c = true) (hne : text ≠ []) :
    stringText (ending.apply (StringForm.literal.write text) ++ rest) = some (text, rest) := by
  have hquote : isLiteral '\'' = false := by decide
  have hfeed : isLiteral '\n' = false := by decide
  have hline : '\n' ∉ StringForm.literal.write text := by
    simp only [StringForm.write, List.mem_cons, List.mem_append, List.cons_append,
      List.not_mem_nil, or_false, not_or]
    exact ⟨by decide, fun hm => by simp [hc _ hm] at hfeed, by decide⟩
  have hopen : (text ++ '\'' :: rest).head? ≠ some '\'' := by
    match text with
    | [] => exact absurd rfl hne
    | c :: text =>
      simp only [List.cons_append, List.head?_cons, ne_eq, Option.some.injEq]
      rintro rfl
      simp [hc _ List.mem_cons_self] at hquote
  rw [ending.apply_of_not_mem hline]
  simp only [StringForm.write, List.cons_append, List.append_assoc, List.nil_append]
  rw [stringText_literal hopen, literalText_append hc]

/-- The literal form between three quotes on one line is read back. -/
theorem stringText_write_tripleLiteral (ending : LineEnd) {text rest : List Char}
    (ha : allowsLiteral text = true) (hn : '\n' ∉ text) (hne : text ≠ []) (h : EndsString rest) :
    stringText (ending.apply (StringForm.tripleLiteral.write text) ++ rest) =
      some (text, rest) := by
  obtain ⟨hc, ht, hl⟩ := (allowsLiteral_iff text).mp ha
  have hquotes : ending.apply tripleSingle = tripleSingle := ending.apply_of_not_mem (by decide)
  have hread := multiLiteralText_apply ending hc ht hl h
  simp only [StringForm.write, LineEnd.apply_append, hquotes, List.append_assoc]
  rw [ending.apply_of_not_mem hn] at hread ⊢
  match text with
  | [] => exact absurd rfl hne
  | c :: text =>
    have hfeed : c ≠ '\n' := by
      rintro rfl
      exact hn List.mem_cons_self
    have hreturn : c ≠ '\r' := by
      rintro rfl
      exact absurd (hc _ List.mem_cons_self) (by decide)
    rw [List.cons_append, ← skipFirstNewline_cons hfeed hreturn] at hread
    exact hread

/-- The literal form of several lines is read back. -/
theorem stringText_write_multiLiteral (ending : LineEnd) {text rest : List Char}
    (ha : allowsLiteral text = true) (h : EndsString rest) :
    stringText (ending.apply (StringForm.multiLiteral.write text) ++ rest) =
      some (text, rest) := by
  obtain ⟨hc, ht, hl⟩ := (allowsLiteral_iff text).mp ha
  have hquotes : ending.apply tripleSingle = tripleSingle := ending.apply_of_not_mem (by decide)
  have hread := multiLiteralText_apply ending hc ht hl h
  simp only [StringForm.write, LineEnd.apply_append, hquotes, LineEnd.apply_newline,
    List.append_assoc]
  rw [← skipFirstNewline_chars ending (ending.apply _ ++ (tripleSingle ++ rest))] at hread
  exact hread

/-- A written string is read back, whichever form suits it, whatever the line
ends of the text, and whatever follows but a quote. -/
theorem stringText_spell (ending : LineEnd) (text : List Char) {rest : List Char}
    (h : EndsString rest) :
    stringText (ending.apply (spell text) ++ rest) = some (text, rest) := by
  by_cases hliteral : (text.contains '\\' && allowsLiteral text) = true
  · obtain ⟨hb, ha⟩ := Bool.and_eq_true_iff.mp hliteral
    have hne : text ≠ [] := by
      rintro rfl
      exact absurd hb (by decide)
    -- the cases are those in which the writer chooses among its forms
    by_cases hn : text.contains '\n' = true
    · have hform : StringForm.of text = .multiLiteral := by
        rw [StringForm.of, if_pos hliteral, if_pos hn]
      rw [spell, hform, stringText_write_multiLiteral ending ha h]
    have hfeed : '\n' ∉ text := by simpa using hn
    by_cases hq : text.contains '\'' = true
    · have hform : StringForm.of text = .tripleLiteral := by
        rw [StringForm.of, if_pos hliteral, if_neg hn, if_pos hq]
      rw [spell, hform, stringText_write_tripleLiteral ending ha hfeed hne h]
    · have hform : StringForm.of text = .literal := by
        rw [StringForm.of, if_pos hliteral, if_neg hn, if_neg hq]
      have hquote : '\'' ∉ text := by simpa using hq
      have hall : ∀ c ∈ text, isLiteral c = true := by
        intro c hc
        have hplain := isPlain_of_isControl_eq_false (((allowsLiteral_iff text).mp ha).1 c hc)
          (ne_of_mem_of_not_mem hc hfeed)
        simp [isLiteral, hplain, ne_of_mem_of_not_mem hc hquote]
      rw [spell, hform, stringText_write_literal ending rest hall hne]
  · by_cases hn : text.contains '\n' = true
    · have hform : StringForm.of text = .multiBasic := by
        rw [StringForm.of, if_neg hliteral, if_pos hn]
      rw [spell, hform, stringText_write_multiBasic ending text h]
    · have hform : StringForm.of text = .basic := by
        rw [StringForm.of, if_neg hliteral, if_neg hn]
      rw [spell, hform, stringText_write_basic ending text h]

end TrayIndicator.Toml
