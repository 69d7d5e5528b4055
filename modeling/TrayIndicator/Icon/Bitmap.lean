/-!
# Bitmaps and icon images

A decoded image is a bitmap of one to four channels with samples of eight or
sixteen bits. The tray takes images of RGBA bytes, and the status item
publishes them as ARGB.
-/

namespace TrayIndicator.Icon

/-- A decoded image. Two and four channels end with alpha; one and two begin
with grey, three and four with red, green and blue. -/
structure Bitmap where
  /-- Pixels of a row. -/
  width : Nat
  /-- Number of rows. -/
  height : Nat
  /-- Samples of a pixel. -/
  channels : Nat
  /-- Do samples have sixteen bits? Otherwise they have eight. -/
  wide : Bool
  /-- The samples, pixel by pixel, row by row. -/
  samples : List Nat

/-- The greatest sample. -/
def Bitmap.greatest (bitmap : Bitmap) : Nat := if bitmap.wide then 65535 else 255

/-- An image of RGBA bytes. -/
structure Image where
  /-- Pixels of a row. -/
  width : Nat
  /-- Number of rows. -/
  height : Nat
  /-- Four bytes for each pixel. -/
  rgba : List UInt8
  deriving DecidableEq, Repr

/-- A sample as a byte; sixteen bits are rounded to the nearest. -/
def Bitmap.byte (bitmap : Bitmap) (sample : Nat) : UInt8 :=
  if bitmap.wide then ((sample * 255 + 32767) / 65535).toUInt8 else sample.toUInt8

/-- The RGBA bytes of samples of so many channels: grey counts for all three
colours, and a missing alpha is opaque. -/
def rgbaBytes (byte : Nat → UInt8) : Nat → List Nat → List UInt8
  | 1, grey :: rest => byte grey :: byte grey :: byte grey :: 255 :: rgbaBytes byte 1 rest
  | 2, grey :: alpha :: rest =>
    byte grey :: byte grey :: byte grey :: byte alpha :: rgbaBytes byte 2 rest
  | 3, red :: green :: blue :: rest =>
    byte red :: byte green :: byte blue :: 255 :: rgbaBytes byte 3 rest
  | 4, red :: green :: blue :: alpha :: rest =>
    byte red :: byte green :: byte blue :: byte alpha :: rgbaBytes byte 4 rest
  | _, _ => []

/-- The bitmap as an image of RGBA bytes. -/
def Bitmap.image (bitmap : Bitmap) : Image :=
  ⟨bitmap.width, bitmap.height, rgbaBytes bitmap.byte bitmap.channels bitmap.samples⟩

/-- An image as the status item publishes it. -/
structure Pixmap where
  /-- Pixels of a row, as a number of 32 bits with sign. -/
  width : Int
  /-- Number of rows, as a number of 32 bits with sign. -/
  height : Int
  /-- Four bytes for each pixel, alpha first. -/
  argb : List UInt8
  deriving DecidableEq, Repr

/-- Whole pixels with alpha moved to the front; bytes that make no whole pixel
are dropped. -/
def alphaFirst : List UInt8 → List UInt8
  | red :: green :: blue :: alpha :: rest => alpha :: red :: green :: blue :: alphaFirst rest
  | _ => []

/-- The image as the status item publishes it. -/
def Image.pixmap (image : Image) : Pixmap :=
  ⟨Int.bmod image.width 4294967296, Int.bmod image.height 4294967296, alphaFirst image.rgba⟩

/-- Every whole pixel keeps its four bytes. -/
theorem alphaFirst_length (rgba : List UInt8) :
    (alphaFirst rgba).length = rgba.length / 4 * 4 := by
  fun_induction alphaFirst rgba with
  | case1 red green blue alpha rest ih =>
    simp only [List.length_cons, ih]
    omega
  | case2 rgba h =>
    have : rgba.length < 4 := by
      rcases rgba with _ | ⟨a, _ | ⟨b, _ | ⟨c, _ | ⟨d, rest⟩⟩⟩⟩ <;> simp
      exact absurd rfl (h a b c d rest)
    simp only [List.length_nil]
    omega

/-- The edge of the tray icon in pixels. -/
def iconSize : Nat := 32

/-- One pixel of the placeholder: a disc with a darker rim, nothing around it.
Distances from the centre are compared as squares of twice their value. -/
def placeholderPixel (x y : Nat) : List UInt8 :=
  let offset (position : Nat) : Int := 2 * position - (iconSize - 1)
  let squared := offset x * offset x + offset y * offset y
  if squared ≤ 25 * 25 then [0x2E, 0x7D, 0xD2, 0xFF]
  else if squared ≤ 28 * 28 then [0x1A, 0x4F, 0x8B, 0xFF]
  else [0, 0, 0, 0]

/-- The image that stands in for an unusable icon. -/
def placeholder : Image :=
  ⟨iconSize, iconSize, (List.range iconSize).flatMap fun y =>
    (List.range iconSize).flatMap fun x => placeholderPixel x y⟩

end TrayIndicator.Icon
