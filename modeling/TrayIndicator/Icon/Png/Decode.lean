import TrayIndicator.Icon.Bitmap
import TrayIndicator.Icon.Inflate
import TrayIndicator.Icon.Png.Pixels

/-!
# Decoding a PNG file

A file is its signature, a header, chunks that describe the colours, and the
compressed rows in one run of chunks. After the run the head of a further
chunk must stand; what it is does not matter. Damage in a chunk that may be
skipped only makes the chunk not count, except in one that announces a frame of
an animation: the first such frame must be the image itself.
-/

namespace TrayIndicator.Icon.Png

/-- What the chunks before the image data say. -/
structure Preamble where
  /-- The header. -/
  header : Header
  /-- The colours of the palette, three bytes each. -/
  palette : Option (List UInt8)
  /-- What the transparency chunk holds. -/
  transparency : Option (List UInt8)
  /-- The number of the last chunk of an animation. -/
  animation : Option Nat

/-- The preamble of a file of which only the header is known. -/
def Preamble.start (header : Header) : Preamble := ⟨header, none, none, none⟩

/-- The number that the next chunk of an animation has. -/
def Preamble.nextNumber (preamble : Preamble) : Nat :=
  match preamble.animation with
  | some number => number + 1
  | none => 0

/-- The greatest palette in bytes. -/
def greatestPalette : Nat := 256 * 3

/-- Can the bytes be the palette of an image? If the image does not use it they
need not be colours. -/
def Header.acceptsPalette (header : Header) (content : List UInt8) : Bool :=
  header.colour != .palette ||
    (!content.isEmpty && content.length % 3 = 0 && content.length ≤ greatestPalette)

/-- Can the bytes of a transparency chunk be used? -/
def Preamble.acceptsTransparency (preamble : Preamble) (content : List UInt8) : Bool :=
  match preamble.header.colour with
  | .grey => 2 ≤ content.length
  | .rgb => 6 ≤ content.length
  | .palette => preamble.palette.isSome
  | _ => false

/-- Do the bytes announce the whole image as the next frame? They hold a number,
the size and the place of the frame, its duration, and two small numbers that
say how it is laid over others. -/
def Preamble.acceptsFrame (preamble : Preamble) (content : List UInt8) : Bool :=
  let field (index : Nat) : Nat := bigEndian ((content.drop (4 * index)).take 4)
  content.length = 26 && field 0 = preamble.nextNumber &&
    field 1 = preamble.header.width && field 2 = preamble.header.height &&
    field 3 = 0 && field 4 = 0 &&
    content.getD 24 0 ≤ 2 && content.getD 25 0 ≤ 1

/-- Takes in a chunk before the image data; `none` if the file is unusable. -/
def Preamble.add (preamble : Preamble) (chunk : Chunk) : Option Preamble :=
  if isCritical chunk.name then
    if chunk.name = chunkName "PLTE" ∧ chunk.intact ∧ preamble.palette.isNone ∧
        preamble.header.acceptsPalette chunk.content then
      some { preamble with palette := some chunk.content }
    else none
  else if !chunk.intact then some preamble
  else if chunk.name = chunkName "fcTL" then
    if preamble.acceptsFrame chunk.content then
      some { preamble with animation := some preamble.nextNumber }
    else none
  else if chunk.name = chunkName "tRNS" ∧ preamble.transparency.isNone ∧
      preamble.acceptsTransparency chunk.content then
    some { preamble with transparency := some chunk.content }
  else some preamble

/-- The name of the chunks that hold the image. -/
def imageData : List UInt8 := chunkName "IDAT"

/-- The name of the chunks that hold a frame of an animation, each after its
number. -/
def frameData : List UInt8 := chunkName "fdAT"

/-- Reads the chunks before the image data and returns the rest, which begins
with it. -/
def readPreamble (preamble : Preamble) (source : List UInt8) : Option (Preamble × List UInt8) :=
  if nextName? source = some imageData ∨ nextName? source = some frameData then
    some (preamble, source)
  else
    match _h : chunk? source with
    | none => none
    | some (chunk, rest) =>
      match preamble.add chunk with
      | some preamble => readPreamble preamble rest
      | none => none
termination_by source.length
decreasing_by exact chunk?_length _h

/-- Reads one run of image data chunks and joins their contents. All must be
intact, and the head of a further chunk must follow. -/
def readData (source : List UInt8) : Option (List UInt8) :=
  if nextName? source = some imageData then
    match _h : chunk? source with
    | none => none
    | some (chunk, rest) =>
      if chunk.intact then (readData rest).map (chunk.content ++ ·) else none
  else if hasHead source then some []
  else none
termination_by source.length
decreasing_by exact chunk?_length _h

/-- Reads one run of chunks of the data of a frame, which are numbered from
`number` on, and joins their contents. Damage in one may be skipped once its
content is taken. -/
def readFrameData (number : Nat) (source : List UInt8) : Option (List UInt8) :=
  if nextName? source = some frameData then
    match _h : chunk? source with
    | none => none
    | some (chunk, rest) =>
      if 4 ≤ chunk.content.length ∧ bigEndian (chunk.content.take 4) = number then
        (readFrameData (number + 1) rest).map (chunk.content.drop 4 ++ ·)
      else none
  else if hasHead source then some []
  else none
termination_by source.length
decreasing_by exact chunk?_length _h

/-- Reads the compressed rows. They may stand in the data of a frame that was
announced before them. -/
def Preamble.readRun (preamble : Preamble) (source : List UInt8) : Option (List UInt8) :=
  if nextName? source = some frameData then
    if preamble.animation.isSome then readFrameData preamble.nextNumber source else none
  else readData source

/-- The raw values of the transparent colour of an image with so many channels.
Below sixteen bits only the low byte of each counts, and more bytes than needed
do no harm; at sixteen bits they match no colour. -/
def transparentColour (header : Header) (channels : Nat) (content : List UInt8) :
    Option (List Nat) :=
  let pairs := (pairBytes content).take channels
  if header.depth < 16 then some (pairs.map (· % 256))
  else if content.length = 2 * channels then some pairs
  else none

/-- Groups of so many samples with a sample of alpha added: zero where the
group is the transparent one. -/
def addAlpha (opaqueAlpha : Nat) (transparent : Option (List Nat)) (scale : Nat → Nat) :
    Nat → List Nat → List Nat
  | 1, grey :: rest =>
    scale grey :: (if some [grey] = transparent then 0 else opaqueAlpha) ::
      addAlpha opaqueAlpha transparent scale 1 rest
  | 3, red :: green :: blue :: rest =>
    scale red :: scale green :: scale blue ::
      (if some [red, green, blue] = transparent then 0 else opaqueAlpha) ::
      addAlpha opaqueAlpha transparent scale 3 rest
  | _, _ => []

/-- The palette as a table of RGBA samples; indices beyond it are opaque black. -/
def paletteTable (palette alphas : List UInt8) : Array (List Nat) :=
  let alphas := if alphas.length ≤ palette.length / 3 then alphas else []
  ((List.range (palette.length / 3)).map fun index =>
    let colour := (palette.drop (3 * index)).take 3
    colour.map UInt8.toNat ++ [(alphas.getD index 255).toNat]).toArray

/-- The bitmap of raw samples. Grey of fewer than eight bits is spread over
eight; a transparent colour is turned into alpha. -/
def bitmapOf (preamble : Preamble) (samples : List Nat) : Option Bitmap :=
  let header := preamble.header
  let bitmap (channels : Nat) (samples : List Nat) : Option Bitmap :=
    some ⟨header.width, header.height, channels, header.depth = 16, samples⟩
  let opaqueAlpha := if header.depth = 16 then 65535 else 255
  let spread : Nat → Nat :=
    if header.depth < 8 then (· * (255 / (Nat.pow 2 header.depth - 1))) else id
  match header.colour with
  | .greyAlpha => bitmap 2 samples
  | .rgba => bitmap 4 samples
  | .grey =>
    match preamble.transparency with
    | none => bitmap 1 (samples.map spread)
    | some content =>
      bitmap 2 (addAlpha opaqueAlpha (transparentColour header 1 content) spread 1 samples)
  | .rgb =>
    match preamble.transparency with
    | none => bitmap 3 samples
    | some content =>
      bitmap 4 (addAlpha opaqueAlpha (transparentColour header 3 content) spread 3 samples)
  | .palette =>
    match preamble.palette with
    | none => none
    | some palette =>
      let table := paletteTable palette (preamble.transparency.getD [])
      bitmap 4 (samples.flatMap fun index => table.getD index [0, 0, 0, 255])

/-- The bitmap that a PNG file holds; `none` if it is not usable. -/
def decode (file : List UInt8) : Option Bitmap :=
  if file.take 8 = signature then
    match chunk? (file.drop 8) with
    | none => none
    | some (first, rest) =>
      if first.name = chunkName "IHDR" ∧ first.intact then
        match Header.read first.content with
        | none => none
        | some header =>
          match readPreamble (.start header) rest with
          | none => none
          | some (preamble, rest) =>
            if header.colour = .palette ∧ preamble.palette.isNone then none
            else
              match preamble.readRun rest with
              | none => none
              | some compressed =>
                match Inflate.inflate compressed with
                | none => none
                | some data =>
                  match readSamples header data with
                  | none => none
                  | some samples => bitmapOf preamble samples
      else none
  else none

end TrayIndicator.Icon.Png
