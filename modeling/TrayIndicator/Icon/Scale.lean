import TrayIndicator.Icon.Bitmap

/-!
# Scaling to the size of the tray icon

A bitmap is scaled by a windowed sinc of three lobes, first down the columns
and then along the rows, each channel for itself, in arithmetic of single
precision. Between the two passes nothing is rounded; at the end samples are
clamped and rounded, a half away from zero. A bitmap of the right size is kept
as it is.
-/

namespace TrayIndicator.Icon

/-- The circle constant in single precision. -/
def pi : Float32 := 3.14159265358979

/-- The sinc function. -/
def sinc (t : Float32) : Float32 :=
  if t == 0 then 1 else (t * pi).sin / (t * pi)

/-- The windowed sinc of three lobes. -/
def kernel (x : Float32) : Float32 :=
  if x.abs < 3 then sinc x * sinc (x / 3) else 0

/-- The input positions that count for one output position, with their weights. -/
structure Window where
  /-- The first input position. -/
  left : Nat
  /-- The weights of the positions from there on. -/
  weights : List Float32

/-- A whole number in single precision. -/
def single (n : Nat) : Float32 := n.toUInt32.toFloat32

/-- A whole non-negative value as a number; what is below zero counts as zero. -/
def whole (x : Float32) : Nat := if x < 0 then 0 else x.toUInt32.toNat

/-- The window of an output position when `size` inputs are scaled. The window
is as wide as the lobes, stretched when the bitmap shrinks; its weights add up
to one. -/
def window (size position : Nat) : Window :=
  let ratio := single size / single iconSize
  let stretch := if ratio < 1 then 1 else ratio
  let reach := 3 * stretch
  let centre := (single position + 0.5) * ratio
  let left := min (whole (centre - reach).floor) (size - 1)
  let right := min (max (whole (centre + reach).ceil) (left + 1)) size
  let middle := centre - 0.5
  let raw := (List.range' left (right - left)).map fun i => kernel ((single i - middle) / stretch)
  let sum := raw.foldl (· + ·) 0
  ⟨left, raw.map (· / sum)⟩

/-- The weighted sum of inputs from a position on, `step` apart. -/
def weighted (inputs : Array Float32) (start step : Nat) (weights : List Float32) : Float32 :=
  (weights.foldl (fun (state : Float32 × Nat) weight =>
    (state.1 + inputs.getD state.2 0 * weight, state.2 + step)) (0, start)).1

/-- A sum as a sample. -/
def toSample (greatest : Nat) (sum : Float32) : Nat :=
  let high := single greatest
  let clamped := if sum < 0 then 0 else if high < sum then high else sum
  whole clamped.round

/-- The samples of a bitmap scaled to the size of the tray icon. -/
def scaledSamples (bitmap : Bitmap) : List Nat :=
  let inputs := (bitmap.samples.map single).toArray
  let line := bitmap.width * bitmap.channels
  let columns := ((List.range iconSize).flatMap fun y =>
    let window := window bitmap.height y
    (List.range line).map fun i =>
      weighted inputs (window.left * line + i) line window.weights).toArray
  let across := (List.range iconSize).map (window bitmap.width)
  (List.range iconSize).flatMap fun y =>
    across.flatMap fun window =>
      (List.range bitmap.channels).map fun channel =>
        toSample bitmap.greatest (weighted columns
          (y * line + window.left * bitmap.channels + channel) bitmap.channels window.weights)

/-- The bitmap at the size of the tray icon. -/
def Bitmap.toIconSize (bitmap : Bitmap) : Bitmap :=
  if bitmap.width = iconSize ∧ bitmap.height = iconSize then bitmap
  else { bitmap with width := iconSize, height := iconSize, samples := scaledSamples bitmap }

/-- Scaling gives the size of the tray icon. -/
theorem Bitmap.toIconSize_size (bitmap : Bitmap) :
    bitmap.toIconSize.width = iconSize ∧ bitmap.toIconSize.height = iconSize := by
  unfold toIconSize
  split
  · assumption
  · exact ⟨rfl, rfl⟩

end TrayIndicator.Icon
