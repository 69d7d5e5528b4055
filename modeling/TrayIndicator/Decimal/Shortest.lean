import TrayIndicator.Decimal.Binary64

/-!
# Shortest decimal digits

A finite number is shown with the fewest decimal digits that read back as the
same number. From the next power of ten above the value on, on one decimal
grid after the other, the two neighbours of the value are tested against the
interval of reals that round to the number; the first grid with a hit wins, and
of two hits the nearer, or the greater if they are equally near.
-/

namespace TrayIndicator.Decimal

/-- A positive value with the interval of reals that round to it, all over one
denominator. -/
structure RoundingInterval where
  /-- Numerator of the least real of the interval. -/
  low : Nat
  /-- Numerator of the value. -/
  value : Nat
  /-- Numerator of the greatest real of the interval. -/
  high : Nat
  /-- The shared denominator. -/
  den : Nat
  /-- Do the two ends belong to the interval? -/
  closed : Bool

/-- The interval of a finite positive number. Below the least significand of a
binade the neighbour is only half as far. -/
def RoundingInterval.of (significand : Nat) (exponent : Int) : RoundingInterval :=
  let below := if significand = hiddenBit ∧ leastExponent < exponent then 1 else 2
  let unit := scaleDown 2 (2 - exponent) 1 1
  { low := (4 * significand - below) * unit.1
    value := 4 * significand * unit.1
    high := (4 * significand + 2) * unit.1
    den := unit.2
    closed := significand % 2 = 0 }

/-- Does the ratio `num / (den * interval.den)` lie in the interval? -/
def RoundingInterval.holds (interval : RoundingInterval) (num den : Nat) : Bool :=
  if interval.closed then interval.low * den ≤ num && num ≤ interval.high * den
  else interval.low * den < num && num < interval.high * den

/-- The least `p` with the ratio below `10 ^ p`. -/
def magnitude (num den : Nat) : Int :=
  if den ≤ num then ((Nat.toDigits 10 (num / den)).length : Int)
  else
    let zeros := ((List.range 400).find? fun j => den ≤ num * Nat.pow 10 (j + 1)).getD 400
    Int.negOfNat zeros

/-- The hit of the interval on the grid of multiples of `10 ^ scale`, if any. -/
def RoundingInterval.onGrid? (interval : RoundingInterval) (scale : Int) : Option Nat :=
  let scaled := scaleDown 10 scale interval.value interval.den
  let floor := scaled.1 / scaled.2
  let up := scaleDown 10 (-scale) 1 1
  let hit (digits : Nat) : Bool := interval.holds (digits * up.1 * interval.den) up.2
  let lower := hit floor
  let upper := hit (floor + 1)
  if lower && upper then
    if 2 * (scaled.1 % scaled.2) < scaled.2 then some floor else some (floor + 1)
  else if lower then some floor
  else if upper then some (floor + 1)
  else none

/-- The shortest digits of a positive finite number and their decimal scale. -/
def shortest (significand : Nat) (exponent : Int) : Nat × Int :=
  let interval := RoundingInterval.of significand exponent
  let size := magnitude interval.value interval.den
  let hit := (List.range 18).findSome? fun (count : Nat) =>
    let scale := size - count
    (interval.onGrid? scale).map fun digits => (digits, scale)
  hit.getD (significand, exponent)

/-- Digits at a decimal scale written positionally, with a fraction always. -/
def positional (digits : Nat) (scale : Int) : List Char :=
  let shown := Nat.toDigits 10 digits
  if 0 ≤ scale then shown ++ List.replicate scale.toNat '0' ++ ['.', '0']
  else
    let places := (-scale).toNat
    if places < shown.length then
      shown.take (shown.length - places) ++ '.' :: shown.drop (shown.length - places)
    else '0' :: '.' :: List.replicate (places - shown.length) '0' ++ shown

/-- How messages show a floating-point number: the shortest digits, never an
exponent, and a fraction also for whole numbers. -/
def Binary64.shown : Binary64 → String
  | .nan => "NaN"
  | .infinite negative => if negative then "-inf" else "inf"
  | .finite negative significand exponent =>
    let sign := if negative then ['-'] else []
    if significand = 0 then String.ofList (sign ++ ['0', '.', '0'])
    else
      let found := shortest significand exponent
      String.ofList (sign ++ positional found.1 found.2)

end TrayIndicator.Decimal
