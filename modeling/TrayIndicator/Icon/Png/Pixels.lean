import TrayIndicator.Icon.Png.Header
import TrayIndicator.Icon.Png.Filter

/-!
# From rows to samples

A row of bytes holds samples of the image's depth, the high bits first. An
interlaced image gives its pixels in seven passes, each an image of its own
with its own rows.
-/

namespace TrayIndicator.Icon.Png

/-- The samples of one byte of a depth below eight, the high bits first. -/
def splitByte (depth : Nat) (byte : UInt8) : List Nat :=
  (List.range (8 / depth)).map fun index =>
    (byte.toNat >>> (8 - depth * (index + 1))) % Nat.pow 2 depth

/-- Pairs of bytes as numbers of sixteen bits. -/
def pairBytes : List UInt8 → List Nat
  | high :: low :: rest => (256 * high.toNat + low.toNat) :: pairBytes rest
  | _ => []

/-- The first samples of a row of bytes. -/
def samplesOf (depth count : Nat) (row : List UInt8) : List Nat :=
  if depth = 8 then row.map UInt8.toNat
  else if depth = 16 then pairBytes row
  else (row.flatMap (splitByte depth)).take count

/-- Where the pixels of a pass lie: the first column and row, and the steps. -/
structure Pass where
  /-- The column of the first pixel. -/
  left : Nat
  /-- The row of the first pixel. -/
  top : Nat
  /-- From one column to the next. -/
  across : Nat
  /-- From one row to the next. -/
  down : Nat

/-- The seven passes of an interlaced image. -/
def passes : List Pass := [
  ⟨0, 0, 8, 8⟩, ⟨4, 0, 8, 8⟩, ⟨0, 4, 4, 8⟩, ⟨2, 0, 4, 4⟩, ⟨0, 2, 2, 4⟩, ⟨1, 0, 2, 2⟩,
  ⟨0, 1, 1, 2⟩]

/-- How many of `total` positions lie on a grid from `first` on. -/
def onGrid (total first step : Nat) : Nat := (total - first + step - 1) / step

/-- Reads the rows of an image of a size, rebuilt and split into samples. -/
def readRows (header : Header) (width height : Nat) (data : List UInt8) :
    Option (List (List Nat) × List UInt8) :=
  match unfilter header.stride (header.rowBytes width) height [] data with
  | some (rows, rest) =>
    some (rows.map (samplesOf header.depth (width * header.colour.channels)), rest)
  | none => none

/-- Puts the samples of one row of a pass where they belong. -/
def placeRow (header : Header) (pass : Pass) (target : Array Nat) (row : Nat)
    (samples : List Nat) : Array Nat :=
  let channels := header.colour.channels
  let start := (pass.top + row * pass.down) * header.width
  samples.zipIdx.foldl (fun target (sample, index) =>
    let column := pass.left + index / channels * pass.across
    target.setIfInBounds ((start + column) * channels + index % channels) sample) target

/-- Reads the passes one after the other; a pass without pixels has no rows. -/
def readPasses (header : Header) : List Pass → List UInt8 → Array Nat → Option (Array Nat)
  | [], _, target => some target
  | pass :: rest, data, target =>
    let width := onGrid header.width pass.left pass.across
    let height := onGrid header.height pass.top pass.down
    if width = 0 ∨ height = 0 then readPasses header rest data target
    else
      match readRows header width height data with
      | none => none
      | some (rows, data) =>
        readPasses header rest data
          (rows.zipIdx.foldl (fun target (samples, row) =>
            placeRow header pass target row samples) target)

/-- The bytes that the rows of an image of a size have, the filters included. -/
def Header.imageBytes (header : Header) (width height : Nat) : Nat :=
  if width = 0 then 0 else height * (header.rowBytes width + 1)

/-- The bytes that the rows of all passes have. -/
def Header.passBytes (header : Header) : Nat :=
  passes.foldl (fun total pass =>
    total + header.imageBytes (onGrid header.width pass.left pass.across)
      (onGrid header.height pass.top pass.down)) 0

/-- The samples of an image, row by row. -/
def readSamples (header : Header) (data : List UInt8) : Option (List Nat) :=
  if header.interlaced then
    if data.length < header.passBytes then none
    else
      let target := Array.replicate (header.width * header.height * header.colour.channels) 0
      (readPasses header passes data target).map Array.toList
  else
    match readRows header header.width header.height data with
    | some (rows, _) => some rows.flatten
    | none => none

end TrayIndicator.Icon.Png
