import Mathlib.Logic.Function.Basic
import TrayIndicator.CommandLine.Parse

/-!
# Selections of values

A selection says which value is chosen for an option, as the value is written. It is
accepted when each option takes its value. The values checked at a position are those of
an accepted selection; giving one more, or letting variables stand in for what is not
given, leads to the values of the selection so extended, and to a mistake exactly when
that is not accepted.
-/

namespace TrayIndicator.CommandLine

/-- Does an option take a value? The flag is given without one, so any will do. -/
def Opt.accepts : Opt → List UInt8 → Bool
  | .logLevel, value => ((Text.ofBytes? value).bind LogLevel.ofName?).isSome
  | .config, value => !value.isEmpty
  | .icon, value => !value.isEmpty
  | .logFile, value => (Text.ofBytes? value).isSome
  | .opener, value => (Text.ofBytes? value).isSome
  | .companion, value => (Text.ofBytes? value).isSome
  | .expandHome, _ => true

/-- The values chosen for the options. -/
abbrev Selection := Opt → Option (List UInt8)

namespace Selection

/-- Nothing is chosen. -/
def empty : Selection := fun _ => none

/-- Does every option take the value chosen for it? -/
def isAccepted (chosen : Selection) : Bool := Opt.all.all fun opt => (chosen opt).all opt.accepts

/-- The values chosen, and others where none is chosen. -/
def laidOver (chosen others : Selection) : Selection := fun opt => (chosen opt).or (others opt)

/-- The values of options for which another selection has none. -/
def outside (chosen others : Selection) : Selection := fun opt =>
  if (others opt).isSome then none else chosen opt

/-- What is read from the values chosen. -/
def values (chosen : Selection) : Values where
  logLevel := (chosen .logLevel).bind fun value => (Text.ofBytes? value).bind LogLevel.ofName?
  config := (chosen .config).map Path.mk
  icon := (chosen .icon).map Path.mk
  logFile := (chosen .logFile).bind Text.ofBytes?
  opener := (chosen .opener).bind Text.ofBytes?
  companion := (chosen .companion).bind Text.ofBytes?
  expandHome := (chosen .expandHome).isSome

/-- Sets the value chosen for an option, if one is. -/
def setIn (chosen : Selection) (found : Values) (opt : Opt) : Except UsageError Values :=
  match chosen opt with
  | none => .ok found
  | some value => found.set opt value

/-- A selection with the value that another has for an option. -/
def taking (found chosen : Selection) (opt : Opt) : Selection :=
  Function.update found opt ((chosen opt).or (found opt))

end Selection

/-- The values of the variables that stand in for options. -/
def environment (world : World) : Selection := fun opt => opt.variableName?.bind world.value?

/-- A result that comes to an answer on a condition is the answer where the condition
holds, and a mistake where it does not. -/
theorem eq_ok_or_error {ε α : Type} {result : Except ε α} {accepted : Bool} {answer : α}
    (h : result.toOption = if accepted then some answer else none) :
    accepted = true ∧ result = .ok answer ∨
      accepted = false ∧ ∃ error, result = .error error := by
  cases accepted with
  | false =>
    cases result with
    | error error => exact .inr ⟨rfl, error, rfl⟩
    | ok value => cases h
  | true =>
    cases result with
    | error error => cases h
    | ok value => exact .inl ⟨rfl, congrArg Except.ok (Option.some.inj h)⟩

/-- What a step after another comes to. -/
theorem toOption_bind {ε α β : Type} (first : Except ε α) (next : α → Except ε β) :
    (first >>= next).toOption = first.toOption.bind fun value => (next value).toOption := by
  cases first <;> rfl

/-- What comes of a changed result. -/
theorem toOption_map {ε α β : Type} (result : Except ε α) (change : α → β) :
    (result.map change).toOption = result.toOption.map change := by
  cases result <;> rfl

/-- What is there is there still if it can be read. -/
theorem isSome_bind {α β : Type} {value : Option α} {read : α → Option β}
    (h : ∀ given, value = some given → (read given).isSome = true) :
    (value.bind read).isSome = value.isSome := by
  cases value with
  | none => rfl
  | some given => exact h given rfl

namespace Selection

variable {chosen : Selection} {opt : Opt} {value : List UInt8}

/-- Acceptance, option by option. -/
theorem isAccepted_iff :
    chosen.isAccepted = true ↔
      ∀ opt value, chosen opt = some value → opt.accepts value = true := by
  have hall : ∀ opt : Opt, opt ∈ Opt.all := by intro opt; cases opt <;> decide
  simp only [isAccepted, List.all_eq_true, Option.all_eq_true]
  exact ⟨fun h opt value hvalue => h opt (hall opt) value hvalue,
    fun h opt _ value hvalue => h opt value hvalue⟩

/-- Whatever is chosen besides, every single value has to be taken. -/
theorem isAccepted_update (h : chosen opt = none) :
    isAccepted (Function.update chosen opt (some value)) =
      (chosen.isAccepted && opt.accepts value) := by
  rw [Bool.eq_iff_iff, Bool.and_eq_true, isAccepted_iff, isAccepted_iff]
  constructor
  · refine fun hall => ⟨fun other given hgiven => hall other given ?_, hall opt value ?_⟩
    · have hne : other ≠ opt := by rintro rfl; rw [h] at hgiven; cases hgiven
      rwa [Function.update_of_ne hne]
    · exact Function.update_self ..
  · rintro ⟨hall, hvalue⟩ other given hgiven
    obtain rfl | hne := eq_or_ne other opt
    · rw [Function.update_self, Option.some.injEq] at hgiven
      exact hgiven ▸ hvalue
    · rw [Function.update_of_ne hne] at hgiven
      exact hall other given hgiven

/-- Of an accepted selection the values given are those of the options it chooses for. -/
theorem has_values (h : chosen.isAccepted = true) (opt : Opt) :
    chosen.values.has opt = (chosen opt).isSome := by
  have hopt := isAccepted_iff.mp h opt
  cases opt with
  | logLevel | logFile | opener | companion => exact isSome_bind hopt
  | config | icon => exact Option.isSome_map
  | expandHome => rfl

/-- Setting a value chooses it, if the option takes it. -/
theorem toOption_set_values (chosen : Selection) (opt : Opt) (value : List UInt8) :
    (chosen.values.set opt value).toOption =
      if opt.accepts value then some (values (Function.update chosen opt (some value)))
      else none := by
  cases opt with
  | logLevel =>
    cases hlevel : (Text.ofBytes? value).bind LogLevel.ofName? <;>
      simp [Values.set, Values.levelOf, Opt.accepts, values, hlevel, Except.map, Except.toOption]
  | config | icon =>
    cases hempty : value.isEmpty <;>
      simp [Values.set, Values.pathOf, Opt.accepts, values, hempty, Except.map, Except.toOption]
  | logFile | opener | companion =>
    cases htext : Text.ofBytes? value <;>
      simp [Values.set, Values.textOf, Opt.accepts, values, htext, Except.map, Except.toOption]
  | expandHome => rfl

/-- Giving a value to an option that none is chosen for chooses it, if the option takes
it. -/
theorem toOption_give_values (haccepted : chosen.isAccepted = true) (h : chosen opt = none)
    (value : List UInt8) :
    (chosen.values.give opt value).toOption =
      if isAccepted (Function.update chosen opt (some value)) then
        some (values (Function.update chosen opt (some value)))
      else none := by
  rw [Values.give, has_values haccepted, h, isAccepted_update h, haccepted, Bool.true_and]
  exact toOption_set_values chosen opt value

/-- Setting the value chosen for an option takes it over, if the option takes it. -/
theorem toOption_setIn_values (chosen found : Selection) (opt : Opt) :
    (chosen.setIn found.values opt).toOption =
      if (chosen opt).all opt.accepts then some (found.taking chosen opt).values else none := by
  unfold setIn taking
  cases chosen opt with
  | none => simp [Except.toOption]
  | some value => exact toOption_set_values found opt value

/-- Setting the values chosen for some options takes them over, if all of them are
taken. -/
theorem toOption_foldlM_setIn (chosen found : Selection) (opts : List Opt) :
    (opts.foldlM chosen.setIn found.values).toOption =
      if opts.all fun opt => (chosen opt).all opt.accepts then
        some (opts.foldl (taking · chosen) found).values
      else none := by
  induction opts generalizing found with
  | nil => rfl
  | cons opt opts ih =>
    rw [List.foldlM_cons, toOption_bind, toOption_setIn_values, List.all_cons, List.foldl_cons]
    cases (chosen opt).all opt.accepts with
    | false => rfl
    | true => exact ih (found.taking chosen opt)

/-- Taking over every option from nothing on leads to the selection itself. -/
theorem foldl_taking_all (chosen : Selection) :
    Opt.all.foldl (taking · chosen) empty = chosen := by
  funext opt
  cases opt <;> simp [Opt.all, taking, empty]

/-- Variables stand in for the options that no value is chosen for, and each of their
values has to be taken. -/
theorem toOption_standIns (world : World) (h : chosen.isAccepted = true) :
    (standIns world chosen.values).toOption =
      if ((environment world).outside chosen).isAccepted then
        some ((environment world).outside chosen).values
      else none := by
  have hstep : standIns world chosen.values =
      Opt.all.foldlM ((environment world).outside chosen).setIn empty.values := by
    unfold standIns
    congr 1
    funext found opt
    simp only [setIn, outside, environment, has_values h]
    cases opt.variableName? with
    | none => cases (chosen opt).isSome <;> rfl
    | some name => cases (chosen opt).isSome <;> cases world.value? name <;> rfl
  rw [hstep, toOption_foldlM_setIn, foldl_taking_all]
  rfl

end Selection

end TrayIndicator.CommandLine
