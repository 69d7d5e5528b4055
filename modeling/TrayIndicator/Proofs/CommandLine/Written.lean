import TrayIndicator.Proofs.CommandLine.Selection

/-!
# Options as they are written

An option is written with its value attached or in an argument of its own, and the
flag without any. Wherever an option may stand, its arguments are taken in as one: a
value in an argument of its own is no word of a command, whatever it says.
-/

namespace TrayIndicator.CommandLine

/-- The argument that names an option. -/
def Opt.argument (opt : Opt) : List UInt8 := dash :: dash :: Text.bytes opt.name

/-- An option as it is written. -/
inductive Written where
  /-- The flag. -/
  | flag
  /-- An option with its value attached. -/
  | attached (opt : Opt) (value : List UInt8) (takesValue : opt ≠ .expandHome)
  /-- An option with its value in the next argument, which begins with no dash. -/
  | apart (opt : Opt) (value : List UInt8) (takesValue : opt ≠ .expandHome)
      (noDash : value.head? ≠ some dash)

namespace Written

/-- The option that is written. -/
def opt : Written → Opt
  | .flag => .expandHome
  | .attached opt _ _ => opt
  | .apart opt _ _ _ => opt

/-- Its value; that of the flag is empty. -/
def value : Written → List UInt8
  | .flag => []
  | .attached _ value _ => value
  | .apart _ value _ _ => value

/-- The arguments it is written as. -/
def arguments : Written → List (List UInt8)
  | .flag => [Opt.expandHome.argument]
  | .attached opt value _ => [opt.argument ++ equals :: value]
  | .apart opt value _ _ => [opt.argument, value]

end Written

/-- A selection with the value of an option that is written. -/
def Selection.giving (chosen : Selection) (given : Written) : Selection :=
  Function.update chosen given.opt (some given.value)

section Forms

/-- An option is found by its name. -/
theorem Opt.ofName?_name (opt : Opt) : Opt.ofName? (Text.bytes opt.name) = some opt := by
  cases opt <;> decide

/-- The argument that names an option is a long option without a value. -/
theorem ArgumentForm.of_argument (opt : Opt) :
    ArgumentForm.of opt.argument = .long (Text.bytes opt.name) none := by
  cases opt <;> decide

/-- With an equals sign and more attached it is a long option with a value. -/
theorem ArgumentForm.of_attached (opt : Opt) (value : List UInt8) :
    ArgumentForm.of (opt.argument ++ equals :: value) =
      .long (Text.bytes opt.name) (some value) := by
  cases opt <;> rfl

/-- An argument that begins with no dash is no option. -/
theorem ArgumentForm.of_value {value : List UInt8} (h : value.head? ≠ some dash) :
    ArgumentForm.of value = .other := by
  unfold ArgumentForm.of
  split
  · next first second rest =>
    have hfirst : first ≠ dash := fun heq => h (congrArg some heq)
    rw [if_neg fun hboth => hfirst hboth.1, if_neg hfirst]
  · rfl

/-- No word of a command begins with a dash. -/
theorem Position.head?_next {position next : Position} {word : String}
    (h : (word, next) ∈ position.next) : (Text.bytes word).head? ≠ some dash := by
  have hall : ∀ pair ∈ position.next, (Text.bytes pair.1).head? ≠ some dash := by
    cases position <;> decide
  exact hall (word, next) h

/-- A word of a command is found at its position by its own bytes only. -/
theorem Position.find?_next {position next : Position} {word : String}
    (h : (word, next) ∈ position.next) :
    position.next.find? (fun further => Text.bytes further.1 = Text.bytes word) =
      some (word, next) := by
  have hall : ∀ pair ∈ position.next,
      position.next.find? (fun further => Text.bytes further.1 = Text.bytes pair.1) =
        some pair := by
    cases position <;> decide
  exact hall (word, next) h

end Forms

namespace Reading

/-- An option as it is written is taken in. A value in an argument of its own is left
open. -/
def takeIn (reading : Reading) : Written → Except UsageError Reading
  | .flag => reading.withValue .expandHome []
  | .attached opt value _ => reading.withValue opt value
  | .apart opt value _ _ =>
    reading.settle.map fun settled => { settled with pending := some ⟨opt, some value⟩ }

/-- May an option or a word come next? -/
def IsFree (reading : Reading) : Prop := reading.pastMark = false ∧ reading.awaits = false

/-- What is read first is free. -/
theorem isFree_start : start.IsFree := ⟨rfl, rfl⟩

/-- Checking the value left open leaves nothing open. -/
theorem settle_eq_ok {reading settled : Reading} (h : reading.settle = .ok settled) :
    settled.pastMark = reading.pastMark ∧ settled.pending = none := by
  unfold settle at h
  split at h
  · next hpending => cases h; exact ⟨rfl, hpending⟩
  · cases h
  · next opt value hpending =>
    cases hgive : reading.values.give opt value <;> rw [hgive] at h <;> cases h
    exact ⟨rfl, rfl⟩

/-- Nor does a value that is checked at once. -/
theorem withValue_eq_ok {reading taken : Reading} {opt : Opt} {value : List UInt8}
    (h : reading.withValue opt value = .ok taken) :
    taken.pastMark = reading.pastMark ∧ taken.pending = none := by
  unfold withValue at h
  cases hsettle : reading.settle with
  | error error => rw [hsettle] at h; cases h
  | ok settled =>
    have hkept := settle_eq_ok hsettle
    rw [hsettle] at h
    cases hgive : settled.values.give opt value with
    | error error => simp [hgive, bind, Except.bind] at h
    | ok values =>
      simp only [hgive, bind, Except.bind, Except.ok.injEq] at h
      subst h
      exact hkept

/-- Whatever is taken in where the reading is free leaves it free. -/
theorem IsFree.takeIn {reading taken : Reading} (h : reading.IsFree) {given : Written}
    (htaken : reading.takeIn given = .ok taken) : taken.IsFree := by
  have hfree (hkept : taken.pastMark = reading.pastMark ∧ taken.pending = none) :
      taken.IsFree := ⟨hkept.1.trans h.1, by rw [awaits, hkept.2]⟩
  cases given with
  | flag => exact hfree (withValue_eq_ok htaken)
  | attached opt value takesValue => exact hfree (withValue_eq_ok htaken)
  | apart opt value takesValue noDash =>
    simp only [Reading.takeIn] at htaken
    cases hsettle : reading.settle with
    | error error => rw [hsettle] at htaken; cases htaken
    | ok settled =>
      rw [hsettle] at htaken
      cases htaken
      exact ⟨(settle_eq_ok hsettle).1.trans h.1, rfl⟩

/-- Checking once more changes nothing where a value was checked at once. -/
theorem withValue_settle (reading : Reading) (opt : Opt) (value : List UInt8) :
    (reading.withValue opt value >>= settle) = (do
      let settled ← reading.settle
      (settled.values.give opt value).map fun values =>
        { settled with values, pending := none }) := by
  unfold withValue
  cases hsettle : reading.settle with
  | error error => rfl
  | ok settled =>
    obtain ⟨values, pending, mark⟩ := settled
    obtain rfl : pending = none := (settle_eq_ok hsettle).2
    cases hgive : values.give opt value <;> simp [hgive, bind, Except.bind, Except.map, settle]

/-- Once the value left open is checked, an option taken in is an option given. -/
theorem takeIn_settle (reading : Reading) (given : Written) :
    (reading.takeIn given >>= settle) = (do
      let settled ← reading.settle
      (settled.values.give given.opt given.value).map fun values =>
        { settled with values, pending := none }) := by
  cases given with
  | flag => exact reading.withValue_settle .expandHome []
  | attached opt value takesValue => exact reading.withValue_settle opt value
  | apart opt value takesValue noDash =>
    simp only [takeIn]
    cases reading.settle <;> rfl

/-- A reading holds a selection when checking the value left open leads to its values, or
to a mistake if it is not accepted. -/
structure Holds (reading : Reading) (chosen : Selection) : Prop where
  /-- An option or a word may come next. -/
  free : reading.IsFree
  /-- What checking the value left open comes to. -/
  settled : reading.settle.toOption =
    if chosen.isAccepted then some ⟨chosen.values, none, false⟩ else none

/-- What is read first holds nothing. -/
theorem holds_start : start.Holds .empty := ⟨isFree_start, rfl⟩

section Holding

variable {reading : Reading} {chosen : Selection} {given : Written}

/-- An option not yet given is added to the selection that a reading holds. -/
theorem Holds.toOption_takeIn_settle (h : reading.Holds chosen)
    (hnew : chosen given.opt = none) :
    (reading.takeIn given >>= settle).toOption =
      if (chosen.giving given).isAccepted then some ⟨(chosen.giving given).values, none, false⟩
      else none := by
  rw [takeIn_settle, toOption_bind, h.settled]
  cases haccepted : chosen.isAccepted with
  | false => simp [Selection.giving, Selection.isAccepted_update hnew, haccepted]
  | true =>
    simp only [if_true, Option.bind_some, toOption_map,
      Selection.toOption_give_values haccepted hnew, Selection.giving]
    rw [apply_ite (Option.map _)]
    rfl

/-- An option taken in is added to the selection that the reading holds. -/
theorem Holds.of_takeIn (h : reading.Holds chosen) (hnew : chosen given.opt = none)
    {taken : Reading} (htaken : reading.takeIn given = .ok taken) :
    taken.Holds (chosen.giving given) where
  free := h.free.takeIn htaken
  settled := by
    rw [← h.toOption_takeIn_settle hnew, htaken]
    rfl

/-- Where an option cannot be taken in, the selection with it is not accepted. -/
theorem Holds.isAccepted_of_error (h : reading.Holds chosen) (hnew : chosen given.opt = none)
    {error : UsageError} (herror : reading.takeIn given = .error error) :
    (chosen.giving given).isAccepted = false := by
  obtain ⟨-, hok⟩ | ⟨hrefused, -⟩ := eq_ok_or_error (h.toOption_takeIn_settle hnew)
  · rw [herror] at hok
    cases hok
  · exact hrefused

end Holding

end Reading

section Steps

variable (world : World) (position : Position)

/-- An argument is no word where a value is awaited or where it begins with a dash. -/
theorem readFrom_cons {reading : Reading} {argument : List UInt8}
    (h : reading.awaits = true ∨ argument.head? = some dash) (rest : List (List UInt8)) :
    readFrom world position reading (argument :: rest) =
      (readArgument world position reading argument).bind fun read =>
        readFrom world position read rest := by
  have hfind : (position.next.find? fun next =>
      (!reading.pastMark && !reading.awaits) && Text.bytes next.1 = argument) = none := by
    rw [List.find?_eq_none]
    rintro ⟨word, next⟩ hword hleads
    simp only [Bool.and_eq_true, decide_eq_true_eq, Bool.not_eq_true'] at hleads
    obtain hawaits | hdash := h
    · simp [hawaits] at hleads
    · exact Position.head?_next hword (hleads.2 ▸ hdash)
  have hhelp : ((!reading.pastMark && !reading.awaits) && !position.next.isEmpty &&
      Text.bytes helpWord = argument) = false := by
    obtain hawaits | hdash := h
    · simp [hawaits]
    · have hne : Text.bytes helpWord ≠ argument := by
        rintro rfl
        revert hdash
        decide
      simp [hne]
  rw [readFrom]
  simp only [hfind, hhelp, Bool.false_eq_true, if_false]
  cases readArgument world position reading argument <;> rfl

/-- A word leads on to the position it stands for, which is read afresh; what was read
before it is checked afterwards. -/
theorem readFrom_word {next : Position} {word : String} (hword : (word, next) ∈ position.next)
    {reading : Reading} (h : reading.IsFree) (rest : List (List UInt8)) :
    readFrom world position reading (Text.bytes word :: rest) =
      (readFrom world next Reading.start rest).bind fun (reached, levels) =>
        (finish world reading).map fun level => (reached, level :: levels) := by
  rw [readFrom]
  simp only [h.1, h.2, Bool.not_false, Bool.and_self, Bool.true_and,
    Position.find?_next hword]
  cases readFrom world next Reading.start rest with
  | error stop => rfl
  | ok inner => cases finish world reading <;> rfl

/-- A long option other than the flag is taken in with what is attached to it. -/
theorem readArgument_long {reading : Reading} (h : reading.pastMark = false)
    {argument : List UInt8} {opt : Opt} {value : Option (List UInt8)}
    (hform : ArgumentForm.of argument = .long (Text.bytes opt.name) value)
    (hvalue : opt ≠ .expandHome) :
    readArgument world position reading argument = orStop (reading.option opt value) := by
  unfold readArgument readLong
  simp only [h, Bool.false_eq_true, if_false, hform, Opt.ofName?_name]

/-- The arguments of an option are taken in as one. -/
theorem readFrom_written {reading : Reading} (h : reading.IsFree) (given : Written)
    (rest : List (List UInt8)) :
    readFrom world position reading (given.arguments ++ rest) =
      (orStop (reading.takeIn given)).bind fun taken =>
        readFrom world position taken rest := by
  cases given with
  | flag =>
    rw [Written.arguments, List.singleton_append, readFrom_cons world position (.inr rfl)]
    unfold readArgument readLong
    simp only [h.1, ArgumentForm.of_argument, Opt.ofName?_name]
    rfl
  | attached opt value takesValue =>
    rw [Written.arguments, List.singleton_append, readFrom_cons world position (.inr rfl),
      readArgument_long world position h.1 (ArgumentForm.of_attached opt value) takesValue]
    rfl
  | apart opt value takesValue noDash =>
    rw [Written.arguments, List.cons_append, List.singleton_append,
      readFrom_cons world position (.inr rfl),
      readArgument_long world position h.1 (ArgumentForm.of_argument opt) takesValue,
      Reading.takeIn, Reading.option]
    cases hsettle : reading.settle with
    | error error => rfl
    | ok settled =>
      have hmark : settled.pastMark = false := (Reading.settle_eq_ok hsettle).1.trans h.1
      -- the value is awaited, so it is taken for no word
      have hvalue : readArgument world position { settled with pending := some ⟨opt, none⟩ }
          value = .ok { settled with pending := some ⟨opt, some value⟩ } := by
        simp only [readArgument, hmark, Bool.false_eq_true, if_false,
          ArgumentForm.of_value noDash]
      exact (readFrom_cons world position (.inl rfl) rest).trans (by rw [hvalue]; rfl)

end Steps

end TrayIndicator.CommandLine
