import TrayIndicator.Proofs.CommandLine.Written

/-!
# Options among the words of a command

Options may stand before, between and after the words of a command. Each word begins a
level of its own, so the options of a command line are spread over one level more than
there are words. Where every level is accepted, the variables that stand in there
included, the command line is read level by level; otherwise it has a mistake.
-/

namespace TrayIndicator.CommandLine

/-- A piece of a command line. -/
inductive Piece where
  /-- A word of a command. -/
  | word (text : String)
  /-- An option. -/
  | option (given : Written)

namespace Piece

/-- The arguments of a piece. -/
def arguments : Piece → List (List UInt8)
  | .word text => [Text.bytes text]
  | .option given => given.arguments

/-- The word, if it is one. -/
def word? : Piece → Option String
  | .word text => some text
  | .option _ => none

/-- The value that it gives to an option, if any. -/
def valueOf? (opt : Opt) : Piece → Option (List UInt8)
  | .word _ => none
  | .option given => if given.opt = opt then some given.value else none

end Piece

/-- Words lead from one position to another. -/
inductive Position.Leads : Position → List String → Position → Prop where
  /-- Without words nothing is left. -/
  | here (position : Position) : Leads position [] position
  /-- A word leads on. -/
  | on {position next reached : Position} {word : String} {words : List String}
      (step : (word, next) ∈ position.next) (rest : Leads next words reached) :
      Leads position (word :: words) reached

/-- A position is reached by its words. -/
theorem Position.leads_words (position : Position) :
    Position.root.Leads position.words position := by
  have hconfig : ("config", Position.config) ∈ Position.root.next := by decide
  cases position with
  | root => exact .here _
  | tray => exact .on (show ("tray", .tray) ∈ Position.root.next by decide) (.here _)
  | doctor => exact .on (show ("doctor", .doctor) ∈ Position.root.next by decide) (.here _)
  | config => exact .on hconfig (.here _)
  | configShow =>
    exact .on hconfig (.on (show ("show", .configShow) ∈ Position.config.next by decide) (.here _))
  | configPath =>
    exact .on hconfig (.on (show ("path", .configPath) ∈ Position.config.next by decide) (.here _))

/-- The selections of the levels of some pieces, the first of which is begun already. -/
def levelsFrom (begun : Selection) : List Piece → List Selection
  | [] => [begun]
  | .word _ :: pieces => begun :: levelsFrom .empty pieces
  | .option given :: pieces => levelsFrom (begun.giving given) pieces

/-- Is no option given twice, in what is begun and some pieces? -/
def GivenOnce (begun : Selection) (pieces : List Piece) : Prop :=
  ∀ opt, ((begun opt).toList ++ pieces.filterMap (·.valueOf? opt)).length ≤ 1

/-- Is a selection accepted at a level, with the variables that stand in there? -/
def Selection.isAcceptedIn (chosen : Selection) (world : World) : Bool :=
  chosen.isAccepted && ((environment world).outside chosen).isAccepted

/-- What is found at the level of a selection. -/
def Selection.level (chosen : Selection) (world : World) : Level :=
  ⟨chosen.values, ((environment world).outside chosen).values⟩

/-- A result is the answer where it is accepted, and a mistake of the command line where
it is not. -/
def AnswersIf {α : Type} (accepted : Bool) (answer : α) (result : Except Stop α) : Prop :=
  if accepted then result = .ok answer else ∃ error, result = .error (.usage error)

namespace AnswersIf

variable {α β : Type} {result : Except Stop α} {accepted further : Bool} {answer : α}

/-- A changed result. -/
theorem map (h : AnswersIf accepted answer result) (change : α → β) :
    AnswersIf accepted (change answer) (result.map change) := by
  cases accepted with
  | false =>
    obtain ⟨error, rfl⟩ := h
    exact ⟨error, rfl⟩
  | true =>
    obtain rfl : result = .ok answer := h
    rfl

/-- A result that another one follows. -/
theorem bind {next : α → Except Stop β} {last : β} (h : AnswersIf accepted answer result)
    (hnext : AnswersIf further last (next answer)) :
    AnswersIf (accepted && further) last (result.bind next) := by
  cases accepted with
  | false =>
    obtain ⟨error, rfl⟩ := h
    exact ⟨error, rfl⟩
  | true =>
    obtain rfl : result = .ok answer := h
    exact hnext

end AnswersIf

section Levels

variable {begun : Selection} {pieces : List Piece} {given : Written} {word : String}

/-- After a word nothing is begun, so no option is given twice there. -/
theorem GivenOnce.after_word (h : GivenOnce begun (.word word :: pieces)) :
    GivenOnce .empty pieces := by
  intro opt
  have hopt := h opt
  rw [List.length_append, List.filterMap_cons_none rfl] at hopt
  exact Nat.le_trans (Nat.le_add_left _ _) hopt

/-- An option that is given now was not given before. -/
theorem GivenOnce.new (h : GivenOnce begun (.option given :: pieces)) :
    begun given.opt = none := by
  have hopt := h given.opt
  cases hbegun : begun given.opt with
  | none => rfl
  | some value => simp [hbegun, Piece.valueOf?] at hopt

/-- The values of an option are the same, whether a piece is begun or to come. -/
theorem toList_giving_append (h : begun given.opt = none) (opt : Opt) :
    (begun.giving given opt).toList ++ pieces.filterMap (·.valueOf? opt) =
      (begun opt).toList ++ (Piece.option given :: pieces).filterMap (·.valueOf? opt) := by
  obtain rfl | hne := eq_or_ne opt given.opt
  · simp [Selection.giving, h, Piece.valueOf?]
  · simp [Selection.giving, Function.update_of_ne hne, Piece.valueOf?, hne.symm]

/-- An option that is given now is not given again. -/
theorem GivenOnce.after_option (h : GivenOnce begun (.option given :: pieces)) :
    GivenOnce (begun.giving given) pieces := by
  intro opt
  rw [toList_giving_append h.new]
  exact h opt

/-- The values of an option over all levels are those given by the pieces. -/
theorem filterMap_levelsFrom (h : GivenOnce begun pieces) (opt : Opt) :
    (levelsFrom begun pieces).filterMap (· opt) =
      (begun opt).toList ++ pieces.filterMap (·.valueOf? opt) := by
  induction pieces generalizing begun with
  | nil => cases hbegun : begun opt <;> simp [levelsFrom, hbegun]
  | cons piece pieces ih =>
    cases piece with
    | word word =>
      have hrest := ih h.after_word
      rw [levelsFrom, List.filterMap_cons, hrest]
      cases begun opt <;> rfl
    | option given => rw [levelsFrom, ih h.after_option, toList_giving_append h.new]

/-- There is one level more than there are words. -/
theorem length_levelsFrom (begun : Selection) (pieces : List Piece) :
    (levelsFrom begun pieces).length = (pieces.filterMap Piece.word?).length + 1 := by
  induction pieces generalizing begun with
  | nil => rfl
  | cons piece pieces ih =>
    cases piece with
    | word word => simp only [levelsFrom, List.length_cons, ih, List.filterMap_cons, Piece.word?]
    | option given => rw [levelsFrom, ih, List.filterMap_cons_none rfl]

/-- What is not accepted when it is begun is not accepted with more. -/
theorem all_levelsFrom_of_not_accepted (world : World) (h : GivenOnce begun pieces)
    (hbegun : begun.isAccepted = false) :
    (levelsFrom begun pieces).all (·.isAcceptedIn world) = false := by
  induction pieces generalizing begun with
  | nil => simp [levelsFrom, Selection.isAcceptedIn, hbegun]
  | cons piece pieces ih =>
    cases piece with
    | word word => simp [levelsFrom, Selection.isAcceptedIn, hbegun]
    | option given =>
      refine ih h.after_option ?_
      rw [Selection.giving, Selection.isAccepted_update h.new, hbegun, Bool.false_and]

end Levels

section Reads

variable (world : World) {reading : Reading} {begun : Selection}

/-- A level ends with what is found at the level of its selection. -/
theorem Reading.Holds.finish (h : reading.Holds begun) :
    AnswersIf (begun.isAcceptedIn world) (begun.level world)
      (CommandLine.finish world reading) := by
  unfold CommandLine.finish Selection.isAcceptedIn
  obtain ⟨haccepted, hsettled⟩ | ⟨hrefused, error, hsettled⟩ := eq_ok_or_error h.settled
  · rw [hsettled, haccepted, Bool.true_and]
    obtain ⟨hstands, hstandIns⟩ | ⟨hrefused, error, hstandIns⟩ :=
      eq_ok_or_error (Selection.toOption_standIns world haccepted)
    · rw [hstands]
      simp only [hstandIns]
      rfl
    · rw [hrefused]
      simp only [hstandIns]
      exact ⟨error, rfl⟩
  · rw [hsettled, hrefused, Bool.false_and]
    exact ⟨error, rfl⟩

/-- A command line is read level by level, wherever its options stand. -/
theorem readFrom_pieces {position reached : Position} {pieces : List Piece}
    (h : reading.Holds begun) (honce : GivenOnce begun pieces)
    (hleads : position.Leads (pieces.filterMap Piece.word?) reached)
    (hreached : reached ≠ .config) :
    AnswersIf ((levelsFrom begun pieces).all (·.isAcceptedIn world))
      (reached, (levelsFrom begun pieces).map (·.level world))
      (readFrom world position reading (pieces.flatMap Piece.arguments)) := by
  induction pieces generalizing position reading begun with
  | nil =>
    cases hleads
    have hend : readFrom world reached reading [] =
        (finish world reading).map fun level => (reached, [level]) := by
      rw [readFrom]
      cases finish world reading with
      | error stop => rfl
      | ok level => exact if_neg hreached
    rw [levelsFrom, List.all_cons, List.all_nil, Bool.and_true, List.flatMap_nil, hend]
    exact (h.finish world).map _
  | cons piece pieces ih =>
    cases piece with
    | word word =>
      obtain _ | ⟨hstep, hrest⟩ := hleads
      have hinner := ih Reading.holds_start honce.after_word hrest
      rw [List.flatMap_cons, Piece.arguments, List.singleton_append,
        readFrom_word world position hstep h.free, levelsFrom, List.all_cons, Bool.and_comm]
      -- what was read before the word is checked after all that follows it
      exact hinner.bind ((h.finish world).map _)
    | option given =>
      rw [List.flatMap_cons, Piece.arguments, readFrom_written world position h.free]
      cases htaken : reading.takeIn given with
      | error error =>
        have hrefused := h.isAccepted_of_error honce.new htaken
        rw [levelsFrom, all_levelsFrom_of_not_accepted world honce.after_option hrefused]
        exact ⟨error, rfl⟩
      | ok taken => exact ih (h.of_takeIn honce.new htaken) honce.after_option hleads

end Reads

end TrayIndicator.CommandLine
