/-!
# Ranges of characters

A set of characters is a list of the inclusive ranges of their numbers.
-/

namespace TrayIndicator.Text

/-- Does some inclusive range hold the number? -/
def inRanges (ranges : List (Nat × Nat)) (n : Nat) : Bool :=
  ranges.any fun (low, high) => low ≤ n && n ≤ high

end TrayIndicator.Text
