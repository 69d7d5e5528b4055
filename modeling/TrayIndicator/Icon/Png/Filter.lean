/-!
# Row filters

Each row of an image begins with the number of a filter. A filtered byte is
the difference to a prediction from its neighbours: the byte one pixel to the
left, the one above, and the one above to the left. Neighbours outside the
image count as zero. Arithmetic is on bytes and wraps.
-/

namespace TrayIndicator.Icon.Png

/-- The filters of a row. -/
inductive Filter where
  | none | left | above | average | paeth
  deriving DecidableEq, Repr

/-- The filter with a number. -/
def Filter.ofNumber? : UInt8 → Option Filter
  | 0 => some .none
  | 1 => some .left
  | 2 => some .above
  | 3 => some .average
  | 4 => some .paeth
  | _ => Option.none

/-- The neighbour nearest to `left + above - corner`; of equally near ones the
first in this order. -/
def nearest (left above corner : UInt8) : UInt8 :=
  let estimate : Int := (left.toNat : Int) + above.toNat - corner.toNat
  let distance (neighbour : UInt8) : Nat := (estimate - neighbour.toNat).natAbs
  if distance left ≤ distance above ∧ distance left ≤ distance corner then left
  else if distance above ≤ distance corner then above
  else corner

/-- What a filter predicts from the neighbours. -/
def Filter.predict (filter : Filter) (left above corner : UInt8) : UInt8 :=
  match filter with
  | .none => 0
  | .left => left
  | .above => above
  | .average => ((left.toNat + above.toNat) / 2).toUInt8
  | .paeth => nearest left above corner

/-- Rebuilds a row. `lefts` and `corners` hold the rebuilt bytes of the pixel
to the left and of the one above it, the oldest first; each step moves both on
by one byte. -/
def rebuild (filter : Filter) : List UInt8 → List UInt8 → List UInt8 → List UInt8 → List UInt8
  | lefts, corners, above, byte :: row =>
    let up := above.headD 0
    let value := byte + filter.predict (lefts.headD 0) up (corners.headD 0)
    value :: rebuild filter (lefts.tail ++ [value]) (corners.tail ++ [up]) above.tail row
  | _, _, _, [] => []

/-- A rebuilt row is as long as the filtered one. -/
theorem rebuild_length (filter : Filter) (lefts corners above row : List UInt8) :
    (rebuild filter lefts corners above row).length = row.length := by
  induction row generalizing lefts corners above with
  | nil => rfl
  | cons byte row ih => simp [rebuild, ih]

/-- Rebuilds so many rows of `size` bytes, each with its filter number before
it, and returns them with the rest of the data. -/
def unfilter (stride size : Nat) : Nat → List UInt8 → List UInt8 →
    Option (List (List UInt8) × List UInt8)
  | 0, _, data => some ([], data)
  | _ + 1, _, [] => none
  | count + 1, above, number :: data =>
    match Filter.ofNumber? number with
    | none => none
    | some filter =>
      let row := data.take size
      if row.length = size then
        let zeros := List.replicate stride 0
        let rebuilt := rebuild filter zeros zeros above row
        match unfilter stride size count rebuilt (data.drop size) with
        | some (rows, rest) => some (rebuilt :: rows, rest)
        | none => none
      else none

end TrayIndicator.Icon.Png
