import TrayIndicator.Icon.Png.Chunk

/-!
# The header of a PNG image

The first chunk gives the size, the kind of colour with its depth, and whether
the rows are interlaced. Only certain depths go with each kind of colour.
-/

namespace TrayIndicator.Icon.Png

/-- The kinds of colour. -/
inductive Colour where
  | grey | rgb | palette | greyAlpha | rgba
  deriving DecidableEq, Repr

/-- The samples that one pixel has in the file. -/
def Colour.channels : Colour → Nat
  | .grey => 1
  | .rgb => 3
  | .palette => 1
  | .greyAlpha => 2
  | .rgba => 4

/-- The kind of colour with a number. -/
def Colour.ofNumber? : Nat → Option Colour
  | 0 => some .grey
  | 2 => some .rgb
  | 3 => some .palette
  | 4 => some .greyAlpha
  | 6 => some .rgba
  | _ => none

/-- The depths that go with a kind of colour. -/
def Colour.depths : Colour → List Nat
  | .grey => [1, 2, 4, 8, 16]
  | .palette => [1, 2, 4, 8]
  | _ => [8, 16]

/-- What the header says. -/
structure Header where
  /-- Pixels of a row. -/
  width : Nat
  /-- Number of rows. -/
  height : Nat
  /-- Bits of a sample. -/
  depth : Nat
  /-- The kind of colour. -/
  colour : Colour
  /-- Are the rows given in seven passes? -/
  interlaced : Bool
  deriving DecidableEq, Repr

/-- The greatest size of an image in bytes, eight for a pixel at most. -/
def greatestImage : Nat := 512 * 1024 * 1024

/-- Bits of a pixel in the file. -/
def Header.pixelBits (header : Header) : Nat := header.colour.channels * header.depth

/-- Bytes of a row of so many pixels, without its filter byte. -/
def Header.rowBytes (header : Header) (pixels : Nat) : Nat := (pixels * header.pixelBits + 7) / 8

/-- Bytes from a sample to the same sample of the pixel before, at least one. -/
def Header.stride (header : Header) : Nat := (header.pixelBits + 7) / 8

/-- The header that the content of the first chunk spells. -/
def Header.read (content : List UInt8) : Option Header :=
  match content.drop 8 with
  | [depth, colour, 0, 0, interlace] =>
    match Colour.ofNumber? colour.toNat with
    | none => none
    | some colour =>
      let width := bigEndian (content.take 4)
      let height := bigEndian ((content.drop 4).take 4)
      if 0 < width ∧ 0 < height ∧ width < 0x80000000 ∧ height < 0x80000000 ∧
          depth.toNat ∈ colour.depths ∧ interlace ≤ 1 ∧
          width * height * colour.channels * (if depth = 16 then 2 else 1) ≤ greatestImage then
        some ⟨width, height, depth.toNat, colour, interlace = 1⟩
      else none
  | _ => none

end TrayIndicator.Icon.Png
