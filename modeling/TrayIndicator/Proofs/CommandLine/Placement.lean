import TrayIndicator.Proofs.CommandLine.Levels

/-!
# Where options stand

An option means the same before, between and after the words of a command, in whatever
order the options come and however each of them is written. A value given on the command
line wins over that of a variable, and this over what is usual. Each level of a command
line has variables of its own to stand in for what is not given there: they are of no
account where the value is given at another level, but a variable with a value that its
option does not take is a mistake everywhere, as an option is given at one level only and
every command has two at least.
-/

namespace TrayIndicator.CommandLine

/-- The position that a command ends at. -/
def Command.position : Command → Position
  | .tray => .tray
  | .doctor => .doctor
  | .configShow => .configShow
  | .configPath => .configPath

/-- A command line with the words of a command in their order, and the values chosen for
options given once each, anywhere among them. -/
structure Placement (command : Command) (chosen : Selection) where
  /-- The words and the options. -/
  pieces : List Piece
  /-- The words are those of the command. -/
  words_eq : pieces.filterMap Piece.word? = command.position.words
  /-- The values given are those chosen. -/
  values_eq : ∀ opt, pieces.filterMap (·.valueOf? opt) = (chosen opt).toList

/-- The arguments of a placement. -/
def Placement.arguments {command : Command} {chosen : Selection}
    (placed : Placement command chosen) : List (List UInt8) :=
  placed.pieces.flatMap Piece.arguments

/-- What a selection asks of a command: its own values, where it has none those of
variables, and where there are none either what is usual. -/
def Selection.asks (chosen : Selection) (world : World) (command : Command) : Choice :=
  let values := (chosen.laidOver (environment world)).values
  { logLevel := values.logLevel.getD LogLevel.usual
    config := values.config
    overrides := {
      iconPath := values.icon
      logFile := values.logFile
      opener := values.opener
      companion := values.companion
      expandHome := values.expandHome }
    command := some command }

/-- A selection is spread over the selections of levels, of which there are two at
least. -/
structure Spread (levels : List Selection) (chosen : Selection) : Prop where
  /-- There are two levels at least. -/
  two_le_length : 2 ≤ levels.length
  /-- An option has the value chosen for it at one level, and at the others none. -/
  values_eq : ∀ opt, levels.filterMap (· opt) = (chosen opt).toList

/-- Where all of some values are alike, each of them is the one found. -/
theorem findSome?_eq_of_forall {α β : Type} {values : List α} {find : α → Option β}
    {found : Option β} (hvalues : values ≠ []) (h : ∀ value ∈ values, find value = found) :
    values.findSome? find = found := by
  cases found with
  | none => exact List.findSome?_eq_none_iff.mpr h
  | some result =>
    obtain ⟨first, rest, rfl⟩ := List.exists_cons_of_ne_nil hvalues
    rw [List.findSome?_cons, h first List.mem_cons_self]

/-- Finding in two steps is finding among the results of the first. -/
theorem findSome?_bind {α β γ : Type} (values : List α) (first : α → Option β)
    (second : β → Option γ) :
    (values.findSome? fun value => (first value).bind second) =
      (values.filterMap first).findSome? second := by
  induction values with
  | nil => rfl
  | cons value values ih =>
    rw [List.findSome?_cons, ih, List.filterMap_cons]
    cases first value <;> rfl

namespace Spread

variable {levels : List Selection} {chosen : Selection} {opt : Opt}

/-- The values chosen are those of the levels. -/
theorem eq_some_iff (h : Spread levels chosen) {value : List UInt8} :
    chosen opt = some value ↔ ∃ level ∈ levels, level opt = some value := by
  rw [← Option.mem_toList, ← h.values_eq opt, List.mem_filterMap]

/-- Some level has no value for an option. -/
theorem exists_eq_none (h : Spread levels chosen) (opt : Opt) :
    ∃ level ∈ levels, level opt = none := by
  by_contra hnone
  have hlength : (levels.filterMap (· opt)).length = levels.length := by
    rw [List.length_filterMap_eq_countP, List.countP_eq_length]
    exact fun level hlevel =>
      Option.isSome_iff_ne_none.mpr fun hempty => hnone ⟨level, hlevel, hempty⟩
  have hone : (chosen opt).toList.length ≤ 1 := by cases chosen opt <;> simp
  have htwo := h.two_le_length
  rw [h.values_eq opt] at hlength
  omega

/-- All levels are accepted when the values chosen are, and those of all variables. -/
theorem all_isAcceptedIn (h : Spread levels chosen) (world : World) :
    levels.all (·.isAcceptedIn world) =
      (chosen.isAccepted && (environment world).isAccepted) := by
  rw [Bool.eq_iff_iff]
  simp only [List.all_eq_true, Selection.isAcceptedIn, Bool.and_eq_true,
    Selection.isAccepted_iff]
  constructor
  · refine fun hall => ⟨fun opt value hvalue => ?_, fun opt value hvalue => ?_⟩
    · obtain ⟨level, hlevel, hgiven⟩ := h.eq_some_iff.mp hvalue
      exact (hall level hlevel).1 opt value hgiven
    · obtain ⟨level, hlevel, hgiven⟩ := h.exists_eq_none opt
      refine (hall level hlevel).2 opt value ?_
      simp only [Selection.outside, hgiven, Option.isSome_none, Bool.false_eq_true, if_false,
        hvalue]
  · rintro ⟨hchosen, hvariables⟩ level hlevel
    refine ⟨fun opt value hvalue => ?_, fun opt value hvalue => ?_⟩
    · exact hchosen opt value (h.eq_some_iff.mpr ⟨level, hlevel, hvalue⟩)
    · refine hvariables opt value ?_
      simp only [Selection.outside] at hvalue
      split at hvalue
      · cases hvalue
      · exact hvalue

/-- The value given is found, whatever the order of the levels. -/
theorem findSome?_given (h : Spread levels chosen) {α : Type} (read : List UInt8 → Option α) :
    (levels.reverse.findSome? fun level => (level opt).bind read) = (chosen opt).bind read := by
  rw [findSome?_bind, List.filterMap_reverse, h.values_eq]
  cases chosen opt <;> simp

/-- Where no value is given the variable stands in at every level. -/
theorem findSome?_outside (h : Spread levels chosen) (hchosen : chosen opt = none)
    (others : Selection) {α : Type} (read : List UInt8 → Option α) :
    (levels.reverse.findSome? fun level => (others.outside level opt).bind read) =
      (others opt).bind read := by
  have hnone : ∀ level ∈ levels, level opt = none := by
    rw [← List.filterMap_eq_nil_iff, h.values_eq, hchosen]
    rfl
  refine findSome?_eq_of_forall ?_ fun level hlevel => ?_
  · have htwo := h.two_le_length
    rw [ne_eq, List.reverse_eq_nil_iff]
    rintro rfl
    simp at htwo
  · simp [Selection.outside, hnone level (List.mem_reverse.mp hlevel)]

/-- The value that is picked for an option is that of the selection, else that of the
variable. -/
theorem pick_level (h : Spread levels chosen) (world : World) (opt : Opt) {α : Type}
    {read : List UInt8 → Option α} {value : Values → Option α}
    (hvalue : ∀ selection : Selection, value selection.values = (selection opt).bind read)
    (hread : ∀ given, chosen opt = some given → (read given).isSome = true) :
    pick (levels.map (·.level world)) value =
      value (chosen.laidOver (environment world)).values := by
  have hpick : pick (levels.map (·.level world)) value =
      ((chosen opt).bind read <|> levels.reverse.findSome? fun level =>
        ((environment world).outside level opt).bind read) := by
    rw [← h.findSome?_given read]
    simp only [pick, ← List.map_reverse, List.findSome?_map, Function.comp_def,
      Selection.level, hvalue]
  rw [hpick, hvalue, Selection.laidOver]
  cases hchosen : chosen opt with
  | some given =>
    obtain ⟨found, hfound⟩ := Option.isSome_iff_exists.mp (hread given hchosen)
    simp [hfound]
  | none =>
    rw [h.findSome?_outside hchosen]
    rfl

/-- The flag is set at some level if it is chosen. -/
theorem any_expandHome (h : Spread levels chosen) (world : World) :
    (levels.map (·.level world)).any (·.given.expandHome) =
      (chosen.laidOver (environment world)).values.expandHome := by
  have hchosen : (chosen.laidOver (environment world)) .expandHome = chosen .expandHome := by
    simp [Selection.laidOver, environment, Opt.variableName?]
  rw [Bool.eq_iff_iff]
  simp only [Selection.values, hchosen, List.any_map, List.any_eq_true, Function.comp_apply,
    Selection.level, Option.isSome_iff_exists, h.eq_some_iff]
  constructor
  · rintro ⟨level, hlevel, given, hgiven⟩
    exact ⟨given, level, hlevel, hgiven⟩
  · rintro ⟨given, level, hlevel, hgiven⟩
    exact ⟨level, hlevel, given, hgiven⟩

/-- What the levels of a command ask for is what the selection asks of it. -/
theorem choiceOf_eq_asks (h : Spread levels chosen) (haccepted : chosen.isAccepted = true)
    (world : World) (command : Command) :
    choiceOf command.position (levels.map (·.level world)) = chosen.asks world command := by
  rw [Selection.isAccepted_iff] at haccepted
  unfold choiceOf Selection.asks
  rw [h.pick_level world .logLevel (fun _ => rfl) (haccepted .logLevel),
    h.pick_level world .config (fun _ => Option.map_eq_bind) fun _ _ => rfl,
    h.pick_level world .icon (fun _ => Option.map_eq_bind) fun _ _ => rfl,
    h.pick_level world .logFile (fun _ => rfl) (haccepted .logFile),
    h.pick_level world .opener (fun _ => rfl) (haccepted .opener),
    h.pick_level world .companion (fun _ => rfl) (haccepted .companion),
    h.any_expandHome world]
  cases command <;> rfl

end Spread

namespace Placement

variable {command : Command} {chosen : Selection}

/-- The options of a placement are given once each. -/
theorem givenOnce (placed : Placement command chosen) : GivenOnce .empty placed.pieces := by
  intro opt
  rw [placed.values_eq]
  cases chosen opt <;> simp [Selection.empty]

/-- A placement spreads what is chosen over its levels. -/
theorem spread (placed : Placement command chosen) :
    Spread (levelsFrom .empty placed.pieces) chosen where
  two_le_length := by
    rw [length_levelsFrom, placed.words_eq]
    cases command <;> decide
  values_eq opt := by
    rw [filterMap_levelsFrom placed.givenOnce, placed.values_eq]
    rfl

/-- The arguments of a placement ask for what its levels do. -/
theorem parse_arguments (placed : Placement command chosen) (world : World) :
    AnswersIf (chosen.isAccepted && (environment world).isAccepted)
      (choiceOf command.position ((levelsFrom .empty placed.pieces).map (·.level world)))
      (parse world placed.arguments) := by
  have hleads : Position.root.Leads (placed.pieces.filterMap Piece.word?) command.position := by
    rw [placed.words_eq]
    exact Position.leads_words command.position
  have hposition : command.position ≠ .config := by cases command <;> decide
  rw [← placed.spread.all_isAcceptedIn]
  exact (readFrom_pieces world Reading.holds_start placed.givenOnce hleads hposition).map _

/-- An option with its value attached, if it takes one. -/
def attached (opt : Opt) (value : List UInt8) : Piece :=
  .option (if takesValue : opt ≠ .expandHome then .attached opt value takesValue else .flag)

/-- An option with its value attached gives that value to it and to no other. -/
theorem valueOf?_attached {other : Opt} {value : List UInt8}
    (hflag : other = .expandHome → value = []) (opt : Opt) :
    (attached other value).valueOf? opt = if other = opt then some value else none := by
  unfold attached
  split
  · rfl
  · next hnot =>
    obtain rfl : other = .expandHome := not_not.mp hnot
    rw [hflag rfl]
    rfl

/-- Whatever is chosen can be given with any command, the flag without a value. -/
theorem exists_of_flag (command : Command)
    (hflag : ∀ value, chosen .expandHome = some value → value = []) :
    Nonempty (Placement command chosen) := by
  let given := Opt.all.filterMap fun opt => (chosen opt).map (attached opt)
  refine ⟨given ++ command.position.words.map .word, ?_, fun opt => ?_⟩
  · have hnone : given.filterMap Piece.word? = [] := by
      rw [List.filterMap_filterMap, List.filterMap_eq_nil_iff]
      intro opt _
      cases chosen opt <;> rfl
    rw [List.filterMap_append, hnone, List.nil_append, List.filterMap_map]
    exact List.filterMap_some
  · have hnone : (command.position.words.map Piece.word).filterMap (·.valueOf? opt) = [] := by
      rw [List.filterMap_map, List.filterMap_eq_nil_iff]
      exact fun _ _ => rfl
    have hvalue (other : Opt) :
        (((chosen other).map (attached other)).bind fun piece => piece.valueOf? opt) =
          if other = opt then chosen opt else none := by
      cases hchosen : chosen other with
      | none =>
        split
        · next heq => rw [← heq, hchosen]; rfl
        · rfl
      | some value =>
        rw [Option.map_some, Option.bind_some,
          valueOf?_attached fun heq => hflag value (heq ▸ hchosen)]
        split
        · next heq => rw [← heq, hchosen]
        · rfl
    rw [List.filterMap_append, hnone, List.append_nil, List.filterMap_filterMap]
    simp only [hvalue]
    cases opt <;> cases chosen _ <;> rfl

end Placement

/-- Options mean the same wherever they stand. Where each option takes the value chosen for
it, and that of its variable, every placement asks for the same: for the values chosen,
where there is none for the variable's, and else for what is usual. Where one does not take
it, every placement is a mistake. -/
theorem options_mean_the_same_anywhere (world : World) (command : Command)
    (chosen : Selection) :
    if chosen.isAccepted && (environment world).isAccepted then
      ∀ placed : Placement command chosen,
        parse world placed.arguments = .ok (chosen.asks world command)
    else
      ∀ placed : Placement command chosen, ∃ error,
        parse world placed.arguments = .error (.usage error) := by
  split
  · next haccepted =>
    intro placed
    have hparse := placed.parse_arguments world
    rw [Bool.and_eq_true] at haccepted
    rw [haccepted.1, haccepted.2, placed.spread.choiceOf_eq_asks haccepted.1] at hparse
    exact hparse
  · next hrefused =>
    intro placed
    have hparse := placed.parse_arguments world
    rwa [Bool.eq_false_iff.mpr hrefused] at hparse

/-- The value of an option is no word, even if it reads like one. -/
example :
    parse ⟨[], Path.ofText "/", ⟨[]⟩, none, fun _ => none⟩
        (["--expand-home", "config", "--opener", "show", "show"].map Text.bytes) =
      .ok ⟨.info, none, ⟨none, none, some "show", none, true⟩, some .configShow⟩ := rfl

end TrayIndicator.CommandLine
