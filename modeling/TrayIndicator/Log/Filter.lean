import TrayIndicator.Log.Rule

/-!
# Log filters

A filter is a list of rules, written with commas between them. Of the rules
that concern an event the most specific one decides; an event that no rule
concerns does not pass.
-/

namespace TrayIndicator

/-- A filter: rules, of which later ones win over equal earlier ones. -/
structure LogFilter where
  /-- The rules as they were given. -/
  rules : List FilterRule
  deriving DecidableEq, Repr

namespace LogFilter

/-- The most specific rule for an event; of equals, the last. -/
def ruleFor? (filter : LogFilter) (event : LogEvent) : Option FilterRule :=
  (filter.rules.filter (·.concerns event)).foldl (fun best rule =>
    match best with
    | some found => if found.yieldsTo rule then some rule else best
    | none => some rule) none

/-- Does an event pass? Without a rule for it, it does not. -/
def passes (filter : LogFilter) (event : LogEvent) : Bool :=
  match filter.ruleFor? event with
  | some rule => rule.passes event
  | none => false

/-- The filter that a level alone means. -/
def ofLevel (level : Level) : LogFilter := ⟨[.atLeast level]⟩

/-- Reads a filter. Without rules only errors pass. -/
def ofText? (text : String) : Option LogFilter :=
  match ((text.splitOn ",").filter fun part => !part.isEmpty).mapM FilterRule.ofText? with
  | some [] => some (ofLevel .error)
  | some rules => some ⟨rules⟩
  | none => none

/-- The filter of a run: the one that its variable spells, else the one that a
level means. -/
def choose (value? : Option (List UInt8)) (level : Level) : LogFilter :=
  ((value?.bind Text.ofBytes?).bind ofText?).getD (ofLevel level)

end LogFilter

end TrayIndicator
