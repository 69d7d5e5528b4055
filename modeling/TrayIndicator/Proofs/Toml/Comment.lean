import TrayIndicator.Proofs.Toml.PlainDocument

/-!
# A comment above plain lines

A comment runs up to the first control character. Where this ends the line, the lines
below are read as if the comment were not there. Where it does not, the text is not of
the format, whatever follows.
-/

namespace TrayIndicator.Toml

section Comment

variable {comment : List Char}

/-- A comment of plain characters is skipped up to a control character. -/
theorem skipComment_of_plain (hplain : comment.all isPlain = true) {c : Char}
    (hc : isPlain c = false) (rest : List Char) :
    skipComment ('#' :: (comment ++ c :: rest)) = c :: rest := by
  have hchars : ∀ d ∈ comment, isPlain d = true := List.all_eq_true.mp hplain
  have hstop : ¬ isPlain c = true := Bool.eq_false_iff.mp hc
  rw [skipComment, List.dropWhile_append_of_pos hchars, List.dropWhile_cons_of_neg hstop]

/-- No space is skipped before a comment. -/
theorem skipSpaces_comment (rest : List Char) : skipSpaces ('#' :: rest) = '#' :: rest := rfl

/-- A comment begins with no byte order mark. -/
theorem skipByteOrderMark_comment (rest : List Char) :
    skipByteOrderMark ('#' :: rest) = '#' :: rest := rfl

/-- The line of a comment ends where its end is written. -/
theorem lineEnd?_comment (hplain : comment.all isPlain = true) (ending : LineEnd)
    (rest : List Char) :
    lineEnd? ('#' :: (comment ++ (ending.chars ++ rest))) = some rest := by
  cases ending with
  | feed =>
    have hskip := skipComment_of_plain hplain (c := '\n') (by decide) rest
    rw [lineEnd?, skipSpaces_comment, LineEnd.chars, List.singleton_append, hskip]
    rfl
  | returnFeed =>
    have hskip := skipComment_of_plain hplain (c := '\r') (by decide) ('\n' :: rest)
    rw [lineEnd?, skipSpaces_comment, LineEnd.chars, List.cons_append, List.singleton_append,
      hskip]
    rfl

/-- A control character that ends no line leaves the line of a comment without an end. -/
theorem lineEnd?_broken_comment (hplain : comment.all isPlain = true) {c : Char}
    (hc : isPlain c = false) {rest : List Char} (hend : newline? (c :: rest) = none) :
    lineEnd? ('#' :: (comment ++ c :: rest)) = none := by
  rw [lineEnd?, skipSpaces_comment, skipComment_of_plain hplain hc]
  exact hend

/-- No line ends at a character that is neither a line feed nor a carriage return before
one. -/
theorem newline?_eq_none_iff {c : Char} {rest : List Char} :
    newline? (c :: rest) = none ↔ c ≠ '\n' ∧ (c = '\r' → rest.head? ≠ some '\n') := by
  constructor
  · intro hend
    constructor
    · rintro rfl
      cases hend
    · rintro rfl hhead
      obtain ⟨later, rfl⟩ := List.head?_eq_some_iff.mp hhead
      cases hend
  · rintro ⟨hfeed, hreturn⟩
    unfold newline?
    split
    · next heq => exact absurd (List.cons.inj heq).1 hfeed
    · next heq =>
      obtain ⟨hc, hrest⟩ := List.cons.inj heq
      exact absurd (by rw [hrest]; rfl) (hreturn hc)
    · rfl

/-- A comment is no statement. -/
theorem statement_comment (rest : List Char) : statement ('#' :: rest) = none := by
  have hkey : key ('#' :: rest) = none := rfl
  have hpair : pair ('#' :: rest) = none := by rw [pair, hkey]
  exact hpair

/-- After the line of a comment reading goes on with the next line. -/
theorem statementsWithin_comment (hplain : comment.all isPlain = true) (ending : LineEnd)
    (rest : List Char) (count : Nat) :
    statementsWithin (count + 1) ('#' :: (comment ++ (ending.chars ++ rest))) =
      statementsWithin count rest := by
  rw [statementsWithin, skipSpaces_comment]
  simp only [lineEnd?_comment hplain]

/-- Below a comment lines are read as the statements that they spell. The line of the
comment may end in its own way. -/
theorem statements_comment_flatMap (hplain : comment.all isPlain = true)
    (commentEnd : LineEnd) {ending : LineEnd} {lines : List PlainLine}
    (h : ∀ line ∈ lines, line.Readable ending) :
    statements ('#' :: (comment ++ (commentEnd.chars ++ lines.flatMap (PlainLine.text ending)))) =
      some (PlainLine.statementsOf ending lines) := by
  have hlength := PlainLine.length_le_length_flatMap ending lines
  have hend : 0 < commentEnd.chars.length := by cases commentEnd <;> decide
  rw [statements, skipByteOrderMark_comment, statementsWithin_comment hplain]
  refine PlainLine.statementsWithin_flatMap h ?_
  rw [List.length_cons, List.length_append, List.length_append]
  omega

/-- A text that begins with a comment whose line does not end is not of the format. -/
theorem statements_broken_comment (hplain : comment.all isPlain = true) {c : Char}
    (hc : isPlain c = false) {rest : List Char} (hend : newline? (c :: rest) = none) :
    statements ('#' :: (comment ++ c :: rest)) = none := by
  have hline := lineEnd?_broken_comment hplain hc hend
  rw [statements, skipByteOrderMark_comment, statementsWithin, skipSpaces_comment]
  simp only [hline, statement_comment]

end Comment

end TrayIndicator.Toml
