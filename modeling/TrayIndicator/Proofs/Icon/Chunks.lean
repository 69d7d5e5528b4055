import TrayIndicator.Icon.Png.Decode

/-!
# Chunks that were written are read

A chunk is written as its length, its name, its content and the checksum. Written
chunks are taken off a file one after the other: the chunks that may stand before the
image data leave the header alone, and the contents of a run of image data are joined.

Chunks before the image data are described as the format has them. Damaged chunks are
not described.
-/

namespace TrayIndicator.Icon.Png

/-- A number of thirty-two bits as four bytes, the most significant first. -/
def bigEndianBytes (value : Nat) : List UInt8 :=
  [UInt8.ofNat (value / 16777216), UInt8.ofNat (value / 65536), UInt8.ofNat (value / 256),
    UInt8.ofNat value]

/-- They are four. -/
theorem length_bigEndianBytes (value : Nat) : (bigEndianBytes value).length = 4 := rfl

/-- The four bytes of a number spell it. -/
theorem bigEndian_bigEndianBytes {value : Nat} (h : value < 4294967296) :
    bigEndian (bigEndianBytes value) = value := by
  simp only [bigEndian, bigEndianBytes, List.foldl_cons, List.foldl_nil, UInt8.toNat_ofNat']
  omega

/-- A chunk that can be written: its name has four letters, and its length fits. -/
structure WholeChunk where
  /-- Its name. -/
  name : List UInt8
  /-- Its content. -/
  content : List UInt8
  /-- The name has four letters. -/
  length_name : name.length = 4
  /-- The length of the content is a number of thirty-two bits. -/
  length_content : content.length < 4294967296

namespace WholeChunk

variable (chunk : WholeChunk) (rest : List UInt8)

/-- What the checksum covers. -/
def covered : List UInt8 := chunk.name ++ chunk.content

/-- The checksum as it is written. -/
def sum : List UInt8 := bigEndianBytes (crc chunk.covered).toNat

/-- The chunk as it is written. -/
def bytes : List UInt8 := bigEndianBytes chunk.content.length ++ (chunk.covered ++ chunk.sum)

/-- The chunk as it is read. -/
def read : Chunk := ⟨chunk.name, chunk.content, true⟩

/-- It is read with its name. -/
@[simp] theorem name_read : chunk.read.name = chunk.name := rfl

/-- It is read with its content. -/
@[simp] theorem content_read : chunk.read.content = chunk.content := rfl

/-- It is read undamaged. -/
@[simp] theorem intact_read : chunk.read.intact = true := rfl

/-- The checksum covers the name and the content. -/
theorem length_covered : chunk.covered.length = 4 + chunk.content.length := by
  rw [covered, List.length_append, chunk.length_name]

/-- A written chunk begins with its head. -/
theorem hasHead_bytes : hasHead (chunk.bytes ++ rest) = true := by
  have hlength : (chunk.bytes ++ rest).length = 12 + chunk.content.length + rest.length := by
    rw [bytes, List.length_append, List.length_append, List.length_append, length_covered]
    rw [sum, length_bigEndianBytes, length_bigEndianBytes]
    omega
  rw [hasHead, List.length_take, hlength, decide_eq_true_iff]
  omega

/-- After the length come the name, the content, the checksum and the rest. -/
theorem drop_bytes :
    (chunk.bytes ++ rest).drop 4 = chunk.covered ++ (chunk.sum ++ rest) := by
  rw [bytes, List.append_assoc, List.drop_left' (length_bigEndianBytes _), List.append_assoc]

/-- The name of a written chunk stands in its head. -/
theorem nextName?_bytes : nextName? (chunk.bytes ++ rest) = some chunk.name := by
  have hname : (chunk.covered ++ (chunk.sum ++ rest)).take 4 = chunk.name := by
    rw [covered, List.append_assoc, List.take_left' chunk.length_name]
  rw [nextName?, if_pos (hasHead_bytes chunk rest), drop_bytes, hname]

/-- A written chunk is taken off a file whole, with its checksum right. -/
theorem chunk?_bytes : chunk? (chunk.bytes ++ rest) = some (chunk.read, rest) := by
  have hcovered := chunk.length_covered
  have hsize : bigEndian ((chunk.bytes ++ rest).take 4) = chunk.content.length := by
    rw [bytes, List.append_assoc, List.take_left' (length_bigEndianBytes _),
      bigEndian_bigEndianBytes chunk.length_content]
  have hsum : bigEndian chunk.sum = (crc chunk.covered).toNat :=
    bigEndian_bigEndianBytes (crc chunk.covered).toNat_lt
  have hfour : chunk.sum.length = 4 := length_bigEndianBytes _
  have hname : chunk.covered.take 4 = chunk.name := List.take_left' chunk.length_name
  have hcontent : chunk.covered.drop 4 = chunk.content := List.drop_left' chunk.length_name
  rw [chunk?, if_pos (hasHead_bytes chunk rest)]
  dsimp only
  rw [hsize, drop_bytes, List.take_left' hcovered, List.drop_left' hcovered,
    List.take_left' hfour, List.drop_left' hfour, if_pos ⟨hcovered, hfour⟩, hname, hcontent, hsum,
    decide_eq_true rfl, read]

end WholeChunk

/-- The name of the chunk of a palette. -/
def paletteName : List UInt8 := chunkName "PLTE"

/-- The name of a chunk that announces a frame of an animation. -/
def frameName : List UInt8 := chunkName "fcTL"

/-- What the chunks between the header and the image data are. Of those that may not be
skipped there is only a palette, and only one. If a frame of an animation is announced
there, it is one frame, the first and the image itself. The data of frames come later. -/
structure Leading (header : Header) (chunks : List WholeChunk) : Prop where
  /-- Only a palette may not be skipped. -/
  palette_of_critical : ∀ chunk ∈ chunks, isCritical chunk.name = true → chunk.name = paletteName
  /-- The palette goes with the colours. -/
  accepts_palette : ∀ chunk ∈ chunks, chunk.name = paletteName →
    header.acceptsPalette chunk.content = true
  /-- There is one palette at most. -/
  count_palette : chunks.countP (·.name = paletteName) ≤ 1
  /-- A frame that is announced is the whole image. -/
  accepts_frame : ∀ chunk ∈ chunks, chunk.name = frameName →
    (Preamble.start header).acceptsFrame chunk.content = true
  /-- One frame is announced at most. -/
  count_frame : chunks.countP (·.name = frameName) ≤ 1
  /-- No data of a frame are among them. -/
  no_frameData : ∀ chunk ∈ chunks, chunk.name ≠ frameData

/-- There need not be any such chunk. -/
theorem Leading.nil (header : Header) : Leading header [] := by
  constructor <;> simp

/-- What holds of such chunks holds of those after the first. -/
theorem Leading.tail {header : Header} {chunk : WholeChunk} {chunks : List WholeChunk}
    (h : Leading header (chunk :: chunks)) : Leading header chunks where
  palette_of_critical other hother := h.palette_of_critical other (List.mem_cons_of_mem _ hother)
  accepts_palette other hother := h.accepts_palette other (List.mem_cons_of_mem _ hother)
  count_palette := Nat.le_trans (List.sublist_cons_self chunk chunks).countP_le h.count_palette
  accepts_frame other hother := h.accepts_frame other (List.mem_cons_of_mem _ hother)
  count_frame := Nat.le_trans (List.sublist_cons_self chunk chunks).countP_le h.count_frame
  no_frameData other hother := h.no_frameData other (List.mem_cons_of_mem _ hother)

/-- If there is one at most, none comes after one in front. -/
theorem countP_tail_eq_zero {p : WholeChunk → Bool} {chunk : WholeChunk}
    {chunks : List WholeChunk} (hone : (chunk :: chunks).countP p ≤ 1) (hfirst : p chunk = true) :
    chunks.countP p = 0 := by
  rw [List.countP_cons_of_pos hfirst] at hone
  omega

/-- What is still to come when some chunks have been taken in: a palette or a frame only
if there was none yet. -/
structure Preamble.Awaits (preamble : Preamble) (chunks : List WholeChunk) : Prop where
  /-- What comes may stand before the image data. -/
  leading : Leading preamble.header chunks
  /-- After a palette there comes none. -/
  no_palette : preamble.palette.isSome = true → chunks.countP (·.name = paletteName) = 0
  /-- After a frame there comes none. -/
  no_frame : preamble.animation.isSome = true → chunks.countP (·.name = frameName) = 0

namespace Preamble.Awaits

variable {preamble : Preamble} {chunk : WholeChunk} {chunks : List WholeChunk}

/-- With only the header known everything that may come is still to come. -/
theorem start {header : Header} (h : Leading header chunks) :
    (Preamble.start header).Awaits chunks := by
  constructor
  · exact h
  · exact fun hsome => absurd hsome Bool.false_ne_true
  · exact fun hsome => absurd hsome Bool.false_ne_true

/-- A chunk that leaves palette and animation alone changes nothing of what comes. -/
theorem tail (h : preamble.Awaits (chunk :: chunks)) : preamble.Awaits chunks where
  leading := h.leading.tail
  no_palette hpalette := Nat.eq_zero_of_le_zero <|
    h.no_palette hpalette ▸ (List.sublist_cons_self chunk chunks).countP_le
  no_frame hframe := Nat.eq_zero_of_le_zero <|
    h.no_frame hframe ▸ (List.sublist_cons_self chunk chunks).countP_le

/-- A palette is taken in, and no other follows. -/
theorem add_palette (h : preamble.Awaits (chunk :: chunks)) (hname : chunk.name = paletteName) :
    ∃ later, preamble.add chunk.read = some later ∧ later.header = preamble.header ∧
      later.Awaits chunks := by
  have hfirst : decide (chunk.name = paletteName) = true := decide_eq_true hname
  have hlater := countP_tail_eq_zero h.leading.count_palette hfirst
  have hnone : preamble.palette = none := by
    rw [← Option.not_isSome_iff_eq_none]
    intro hpalette
    exact List.countP_eq_zero.mp (h.no_palette hpalette) chunk List.mem_cons_self hfirst
  have haccepts : preamble.header.acceptsPalette chunk.content = true :=
    h.leading.accepts_palette chunk List.mem_cons_self hname
  have hcritical : isCritical chunk.read.name = true := by
    rw [chunk.name_read, hname]
    decide
  have hnew : preamble.palette.isNone = true := by rw [hnone, Option.isNone_none]
  have hadd : preamble.add chunk.read = some { preamble with palette := some chunk.content } := by
    rw [add, if_pos hcritical]
    exact if_pos ⟨hname, chunk.intact_read, hnew, haccepts⟩
  refine ⟨_, hadd, rfl, ?_⟩
  constructor
  · exact h.leading.tail
  · exact fun _ => hlater
  · exact h.tail.no_frame

/-- A frame that is the whole image is taken in, and no other follows. -/
theorem add_frame (h : preamble.Awaits (chunk :: chunks)) (hname : chunk.name = frameName) :
    ∃ later, preamble.add chunk.read = some later ∧ later.header = preamble.header ∧
      later.Awaits chunks := by
  have hfirst : decide (chunk.name = frameName) = true := decide_eq_true hname
  have hlater := countP_tail_eq_zero h.leading.count_frame hfirst
  have hnone : preamble.animation = none := by
    rw [← Option.not_isSome_iff_eq_none]
    intro hframe
    exact List.countP_eq_zero.mp (h.no_frame hframe) chunk List.mem_cons_self hfirst
  have hnumber : preamble.nextNumber = 0 := by rw [nextNumber, hnone]
  have haccepts : preamble.acceptsFrame chunk.content = true := by
    have hfirst := h.leading.accepts_frame chunk List.mem_cons_self hname
    rw [acceptsFrame, hnumber]
    exact hfirst
  have hskip : isCritical chunk.read.name = false := by
    rw [chunk.name_read, hname]
    decide
  have hadd : preamble.add chunk.read =
      some { preamble with animation := some preamble.nextNumber } := by
    have hread : chunk.read.name = chunkName "fcTL" := hname
    rw [add, hskip, chunk.intact_read, hread]
    exact if_pos haccepts
  refine ⟨_, hadd, rfl, ?_⟩
  constructor
  · exact h.leading.tail
  · exact h.tail.no_palette
  · exact fun _ => hlater

/-- A chunk that may be skipped and announces no frame leaves palette and animation
alone. -/
theorem add_other (h : preamble.Awaits (chunk :: chunks)) (hskip : isCritical chunk.name = false)
    (hname : chunk.name ≠ frameName) :
    ∃ later, preamble.add chunk.read = some later ∧ later.header = preamble.header ∧
      later.Awaits chunks := by
  -- a transparent colour may be taken in, which counts for no later chunk
  have hadd : preamble.add chunk.read =
      if chunk.name = chunkName "tRNS" ∧ preamble.transparency.isNone ∧
          preamble.acceptsTransparency chunk.content then
        some { preamble with transparency := some chunk.content }
      else some preamble := by
    have hread : chunk.read.name ≠ chunkName "fcTL" := hname
    rw [add, chunk.name_read, hskip, chunk.intact_read, ← chunk.name_read, if_neg hread]
    rfl
  split at hadd
  · exact ⟨_, hadd, rfl, h.tail.leading, h.tail.no_palette, h.tail.no_frame⟩
  · exact ⟨_, hadd, rfl, h.tail⟩

/-- The next chunk is taken in, whichever it is. -/
theorem add_read (h : preamble.Awaits (chunk :: chunks)) :
    ∃ later, preamble.add chunk.read = some later ∧ later.header = preamble.header ∧
      later.Awaits chunks := by
  cases hcritical : isCritical chunk.name with
  | true => exact h.add_palette (h.leading.palette_of_critical chunk List.mem_cons_self hcritical)
  | false =>
    by_cases hname : chunk.name = frameName
    · exact h.add_frame hname
    · exact h.add_other hcritical hname

/-- All chunks before the image data are taken in, and the header stays. -/
theorem readPreamble_bytes (h : preamble.Awaits chunks) {rest : List UInt8}
    (hrest : nextName? rest = some imageData) :
    ∃ later, readPreamble preamble (chunks.flatMap WholeChunk.bytes ++ rest) =
      some (later, rest) ∧ later.header = preamble.header := by
  induction chunks generalizing preamble with
  | nil =>
    refine ⟨preamble, ?_, rfl⟩
    rw [List.flatMap_nil, List.nil_append, readPreamble, if_pos (Or.inl hrest)]
  | cons chunk chunks ih =>
    obtain ⟨next, hadd, hnext, hawaits⟩ := h.add_read
    obtain ⟨later, hlater, hheader⟩ := ih hawaits
    -- neither name at which the preamble would end too early
    have hframe : chunk.name ≠ frameData := h.leading.no_frameData chunk List.mem_cons_self
    have hdata : chunk.name ≠ imageData := by
      intro hname
      have hcritical : isCritical chunk.name = true := by
        rw [hname]
        decide
      have hpalette := h.leading.palette_of_critical chunk List.mem_cons_self hcritical
      rw [hname] at hpalette
      exact absurd hpalette (by decide)
    refine ⟨later, ?_, hheader.trans hnext⟩
    rw [List.flatMap_cons, List.append_assoc, readPreamble, WholeChunk.nextName?_bytes,
      if_neg (by simp [hframe, hdata]), WholeChunk.chunk?_bytes]
    simp only [hadd, hlater]

end Preamble.Awaits

/-- The contents of a run of image data are joined, up to the head of another chunk. -/
theorem readData_bytes {chunks : List WholeChunk} (hname : ∀ chunk ∈ chunks, chunk.name = imageData)
    {rest : List UInt8} (hhead : hasHead rest = true) (hrest : nextName? rest ≠ some imageData) :
    readData (chunks.flatMap WholeChunk.bytes ++ rest) = some (chunks.flatMap (·.content)) := by
  induction chunks with
  | nil =>
    rw [List.flatMap_nil, List.nil_append, readData, if_neg hrest, if_pos hhead]
    rfl
  | cons chunk chunks ih =>
    have hlater := ih fun other hother => hname other (List.mem_cons_of_mem _ hother)
    have hfirst : chunk.name = imageData := hname chunk List.mem_cons_self
    rw [List.flatMap_cons, List.append_assoc, readData, WholeChunk.nextName?_bytes, hfirst,
      if_pos rfl, WholeChunk.chunk?_bytes]
    simp only [WholeChunk.read, if_true, hlater, Option.map_some, List.flatMap_cons]

end TrayIndicator.Icon.Png
