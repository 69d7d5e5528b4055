/-!
# Binary floating-point numbers read from decimals

A number of 64 bits is a sign, a significand below 2^53 and a binary exponent.
A decimal is rounded to the nearest such number in exact arithmetic, a half
going to the even significand, so no machine arithmetic takes part.
-/

namespace TrayIndicator.Decimal

/-- A binary floating-point number of 64 bits. -/
inductive Binary64 where
  /-- No number; its sign and payload are never shown. -/
  | nan
  /-- An infinity of the given sign. -/
  | infinite (negative : Bool)
  /-- The value `significand * 2 ^ exponent` with a sign, zeros included. -/
  | finite (negative : Bool) (significand : Nat) (exponent : Int)
  deriving DecidableEq, Repr

/-- The quotient rounded to the nearest natural number, a half to the even one. -/
def divRoundEven (num den : Nat) : Nat :=
  let floor := num / den
  let twice := 2 * (num % den)
  if twice < den then floor
  else if den < twice then floor + 1
  else if floor % 2 = 0 then floor
  else floor + 1

/-- A ratio scaled by a power: `num / den / base ^ exponent` as a new ratio. -/
def scaleDown (base : Nat) (exponent : Int) (num den : Nat) : Nat × Nat :=
  if 0 ≤ exponent then (num, den * Nat.pow base exponent.toNat)
  else (num * Nat.pow base (-exponent).toNat, den)

/-- The least significand of a number that is not too small for a full one. -/
def hiddenBit : Nat := 0x10000000000000

/-- The least exponent of a finite number. -/
def leastExponent : Int := -1074

/-- The greatest exponent of a finite number. -/
def greatestExponent : Int := 971

/-- The finite number or infinity nearest to a positive ratio. -/
def Binary64.ofRatio (negative : Bool) (num den : Nat) : Binary64 :=
  let guess := max leastExponent ((num.log2 : Int) - den.log2 - 53)
  let floorAt (exponent : Int) : Nat :=
    let scaled := scaleDown 2 exponent num den
    scaled.1 / scaled.2
  let exponent := if 2 * hiddenBit ≤ floorAt guess then guess + 1 else guess
  let scaled := scaleDown 2 exponent num den
  let significand := divRoundEven scaled.1 scaled.2
  let significand' := if significand = 2 * hiddenBit then hiddenBit else significand
  let exponent' := if significand = 2 * hiddenBit then exponent + 1 else exponent
  if greatestExponent < exponent' then .infinite negative
  else .finite negative significand' exponent'

/-- The number nearest to `digits * 10 ^ scale`. Scales far outside the range
are decided without computing the power. -/
def Binary64.ofDecimal (negative : Bool) (digits : Nat) (scale : Int) : Binary64 :=
  if digits = 0 then .finite negative 0 leastExponent
  else
    let magnitude := scale + (Nat.toDigits 10 digits).length
    if 400 < magnitude then .infinite negative
    else if magnitude < -400 then .finite negative 0 leastExponent
    else
      let scaled := scaleDown 10 (-scale) digits 1
      .ofRatio negative scaled.1 scaled.2

end TrayIndicator.Decimal
