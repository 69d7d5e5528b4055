import TrayIndicator.Log
import TrayIndicator.Log.Pattern
import TrayIndicator.Text.Utf8

/-!
# Rules of log filters

A rule names a level, and may name a speaker and a field, as in
`speaker[span{field=value}]=level`. Each part may be left out. A level or a
speaker may stand alone; a speaker alone lets everything of it pass.

A rule is read from its text without the blanks around it, but the parts are cut
from the text as it stands, at the places where they were found. So a rule after
a blank seldom says what it seems to say.
-/

namespace TrayIndicator

/-- A rule of a filter. -/
structure FilterRule where
  /-- What the name of the speaker begins with. -/
  target : String
  /-- A field that the event must have. -/
  field : Option String
  /-- Is the rule about spans of time? The program marks none. -/
  aboutSpans : Bool
  /-- The least level that passes; without one nothing does. -/
  least : Option Level
  deriving DecidableEq, Repr

namespace FilterRule

/-- The rule that lets everything pass. -/
def everything : FilterRule := ⟨"", none, false, some .trace⟩

/-- The rule that lets pass whatever matters as much. -/
def atLeast (level : Level) : FilterRule := { everything with least := some level }

/-- Does a rule concern an event? -/
def concerns (rule : FilterRule) (event : LogEvent) : Bool :=
  !rule.aboutSpans && rule.target.toList.isPrefixOf event.source.target.toList &&
    (match rule.field with
    | some name => event.hasField name
    | none => true)

/-- Does a rule let an event pass? -/
def passes (rule : FilterRule) (event : LogEvent) : Bool :=
  match rule.least with
  | some least => least.rank ≤ event.level.rank
  | none => false

/-- Is the second of two rules for one event at least as specific? The length of
the speaker counts before the field, and fields count in the order of their
names. -/
def yieldsTo (first second : FilterRule) : Bool :=
  let a := first.target.utf8ByteSize
  let b := second.target.utf8ByteSize
  if a ≠ b then a < b
  else
    match first.field, second.field with
    | none, _ => true
    | some _, none => false
    | some x, some y => x ≤ y

/-- The number that decimal digits spell, perhaps after a plus sign. -/
def number? (word : String) : Option Nat :=
  let digits := if word.toList.head? = some '+' then word.toList.drop 1 else word.toList
  if digits.isEmpty || !digits.all Char.isDigit then none
  else some (digits.foldl (fun value c => 10 * value + (c.toNat - 48)) 0)

/-- The thresholds from none to the least, by name. -/
def thresholds : List (String × Option Level) := [
  ("off", none), ("error", some .error), ("warn", some .warn), ("info", some .info),
  ("debug", some .debug), ("trace", some .trace)]

/-- The threshold that a word names, or a number by its place. -/
def threshold? (word : String) : Option (Option Level) :=
  match number? word with
  | some number => (thresholds[number]?).map (·.2)
  | none => thresholds.lookup (String.ofList (word.toList.map Char.toLower))

/-- Where a reader of a rule is, with the place where the part it is in began. -/
inductive Part where
  | start
  | name (from' : Nat)
  | span (from' : Nat)
  | field (from' : Nat)
  | afterField
  | afterSpan
  | threshold (from' : Nat)
  deriving DecidableEq, Repr

/-- Takes a field and what is asked of it into a rule. -/
def withField? (rule : FilterRule) (text : String) : Option FilterRule :=
  match text.splitOn "=" with
  | name :: value :: _ =>
    if Pattern.isPattern value then some { rule with field := some name, aboutSpans := true }
    else none
  | _ => if text.isEmpty then none else some { rule with field := some text }

/-- Reads one character at its place. `cut` is the text between two places, if
there is one. -/
def step? (cut : Nat → Nat → Option String) (state : Part × FilterRule) (place : Nat)
    (c : Char) : Option (Part × FilterRule) :=
  let (part, rule) := state
  match part with
  | .start =>
    if c = '[' then some (.span (place + 1), rule)
    else if c = '-' ∨ c = ':' ∨ c = '_' ∨ Text.isAlphanumeric c then some (.name place, rule)
    else none
  | .name start =>
    if c = '=' then
      (cut start place).map fun target => (.threshold (place + 1), { rule with target })
    else if c = '[' then
      (cut start place).map fun target => (.span (place + 1), { rule with target })
    else some state
  | .span start =>
    if c = ']' then (cut start place).map fun _ => (.afterSpan, { rule with aboutSpans := true })
    else if c = '\x7b' then
      (cut start place).map fun span =>
        (.field (place + 1), { rule with aboutSpans := !span.isEmpty })
    else some state
  | .field start =>
    if c = '\x7d' then
      (cut start place).bind fun text =>
        if text.isEmpty then none else (rule.withField? text).map fun rule => (.afterField, rule)
    else some state
  | .afterField => if c = ']' then some (.afterSpan, rule) else none
  | .afterSpan => if c = '=' then some (.threshold (place + 1), rule) else none
  | .threshold _ => some state

/-- Reads characters one after the other, from a place on. -/
def readFrom? (cut : Nat → Nat → Option String) :
    Part × FilterRule → Nat → List Char → Option (Part × FilterRule)
  | state, _, [] => some state
  | state, place, c :: rest =>
    (step? cut state place c).bind fun next => readFrom? cut next (place + c.utf8Size) rest

/-- Ends a rule. `rest` is the text from a place on. -/
def finish? (rest : Nat → Option String) : Part × FilterRule → Option FilterRule
  | (.name start, rule) =>
    (rest start).map fun word =>
      match threshold? word with
      | some least => { rule with least }
      | none => { rule with target := word }
  | (.threshold start, rule) =>
    (rest start).bind fun word =>
      if word.isEmpty then some rule
      else (threshold? word).map fun least => { rule with least }
  | (.afterSpan, rule) => some rule
  | _ => none

/-- Reads a rule. -/
def ofText? (text : String) : Option FilterRule :=
  let source := Text.bytes text
  let cut (start stop : Nat) : Option String := Text.ofBytes? ((source.take stop).drop start)
  (readFrom? cut (.start, everything) 0 (Text.trim text).toList).bind
    (finish? fun start => cut start source.length)

end FilterRule

end TrayIndicator
