import TrayIndicator.Text.Utf8

/-!
# Failures told to the user

A command that fails says what it could not do and what that was caused by,
the nearest cause first. The brief form is one line; the report lists the
causes below one another, numbered if there are several.
-/

namespace TrayIndicator

/-- A failure with its causes. -/
structure Failure where
  /-- What failed. -/
  summary : String
  /-- What it was caused by, the nearest cause first. -/
  causes : List String
  deriving DecidableEq, Repr

namespace Failure

/-- The failure in one line. -/
def brief (failure : Failure) : String :=
  String.intercalate ": " (failure.summary :: failure.causes)

/-- A text after its mark; further lines of it begin with the indent. -/
def indented (mark indent text : String) : String :=
  mark ++ String.intercalate ("\n" ++ indent) (text.splitOn "\n")

/-- The mark of a numbered cause: the number to the right of five columns. -/
def numberMark (number : Nat) : String :=
  let digits := toString number
  String.ofList (List.replicate (5 - digits.length) ' ') ++ digits ++ ": "

/-- The causes in the report. A single one has no number. -/
def causeList : List String → List String
  | [cause] => [indented "    " "    " cause]
  | causes => causes.zipIdx.map fun (cause, number) =>
      indented (numberMark number) "       " cause

/-- The failure with the list of its causes. -/
def report (failure : Failure) : String :=
  if failure.causes.isEmpty then failure.summary
  else
    failure.summary ++ "\n\nCaused by:\n" ++ String.intercalate "\n" (causeList failure.causes)

end Failure

end TrayIndicator
