import Mathlib.Algebra.BigOperators.Group.List.Basic
import Mathlib.Algebra.Group.Nat.Defs
import TrayIndicator.Icon.Png.Decode

/-!
# Decoded bitmaps are full

A bitmap that is decoded from a file has exactly the samples that its size and
its channels ask for, whatever bytes the file holds: rows of any depth, passes of
an interlaced image, palettes and transparent colours all keep count.

The values of the samples are not described here.
-/

namespace TrayIndicator.Icon

/-- What makes a bitmap full: one to four channels, and every sample is there. -/
structure Bitmap.Full (bitmap : Bitmap) : Prop where
  /-- There is a channel. -/
  channels_pos : 0 < bitmap.channels
  /-- There are no more than four. -/
  channels_le : bitmap.channels ≤ 4
  /-- Every pixel has its samples. -/
  length_samples : bitmap.samples.length = bitmap.width * bitmap.height * bitmap.channels

/-- A bitmap of one to four channels with all its samples is full. -/
theorem Bitmap.Full.of_length {width height channels : Nat} {wide : Bool} {samples : List Nat}
    (hchannels : channels ∈ [1, 2, 3, 4]) (hlength : samples.length = width * height * channels) :
    Bitmap.Full ⟨width, height, channels, wide, samples⟩ := by
  simp only [List.mem_cons, List.not_mem_nil, or_false] at hchannels
  constructor
  · dsimp only
    omega
  · dsimp only
    omega
  · exact hlength

/-- Items that give lists of one length give together their number times that
length. -/
theorem length_flatMap_of_forall {α β : Type} {items : List β} {f : β → List α} {size : Nat}
    (h : ∀ item ∈ items, (f item).length = size) :
    (items.flatMap f).length = items.length * size := by
  have hsum : (items.map fun item => (f item).length).sum =
      (items.map fun item => (f item).length).length • size :=
    List.sum_eq_card_nsmul _ _ (by simpa using h)
  rw [List.length_flatMap, hsum, List.length_map, Nat.nsmul_eq_mul]

namespace Png

section Rows

/-- A byte holds as many samples as its bits have room for. -/
theorem length_splitByte (depth : Nat) (byte : UInt8) :
    (splitByte depth byte).length = 8 / depth := by
  rw [splitByte, List.length_map, List.length_range]

/-- Each pair of bytes is one number. -/
theorem length_pairBytes (row : List UInt8) : (pairBytes row).length = row.length / 2 := by
  fun_induction pairBytes row with
  | case1 high low rest ih =>
    rw [List.length_cons, ih, List.length_cons, List.length_cons]
    omega
  | case2 row hshort =>
    have hlength : row.length < 2 := by
      rcases row with _ | ⟨high, _ | ⟨low, rest⟩⟩
      · exact Nat.zero_lt_two
      · exact Nat.one_lt_two
      · exact absurd rfl (hshort high low rest)
    rw [List.length_nil]
    omega

/-- A row of bytes that has room for its samples is split into exactly these. -/
theorem length_samplesOf {header : Header} (hdepth : header.depth ∈ header.colour.depths)
    {pixels : Nat} {row : List UInt8} (hrow : row.length = header.rowBytes pixels) :
    (samplesOf header.depth (pixels * header.colour.channels) row).length =
      pixels * header.colour.channels := by
  have hdepths : header.depth ∈ [1, 2, 4, 8, 16] := by
    revert hdepth
    cases header.colour <;> simp [Colour.depths] <;> omega
  have hbits : pixels * header.pixelBits = pixels * header.colour.channels * header.depth := by
    rw [Header.pixelBits, Nat.mul_assoc]
  rw [Header.rowBytes, hbits] at hrow
  generalize pixels * header.colour.channels = count at hrow ⊢
  simp only [List.mem_cons, List.not_mem_nil, or_false] at hdepths
  rw [samplesOf]
  by_cases height : header.depth = 8
  · rw [if_pos height, List.length_map, hrow, height]
    omega
  by_cases hsixteen : header.depth = 16
  · rw [if_neg height, if_pos hsixteen, length_pairBytes, hrow, hsixteen]
    omega
  -- below eight bits the last byte may hold samples that no pixel has
  have hsplit : (row.flatMap (splitByte header.depth)).length = row.length * (8 / header.depth) :=
    length_flatMap_of_forall fun byte _ => length_splitByte header.depth byte
  rw [if_neg height, if_neg hsixteen, List.length_take, hsplit, hrow]
  rcases hdepths with h | h | h | h | h
  · rw [h]; omega
  · rw [h]; omega
  · rw [h]; omega
  · exact absurd h height
  · exact absurd h hsixteen

/-- Rebuilt rows are as many as were asked for, and each has its size. -/
theorem unfilter_rows {stride size count : Nat} {above data rest : List UInt8}
    {rows : List (List UInt8)} (h : unfilter stride size count above data = some (rows, rest)) :
    rows.length = count ∧ ∀ row ∈ rows, row.length = size := by
  induction count generalizing above data rows rest with
  | zero =>
    cases h
    exact ⟨rfl, by simp⟩
  | succ count ih =>
    cases data with
    | nil => cases h
    | cons number data =>
      rw [unfilter] at h
      cases hfilter : Filter.ofNumber? number with
      | none => simp [hfilter] at h
      | some filter =>
        simp only [hfilter] at h
        by_cases hsize : (data.take size).length = size
        · rw [if_pos hsize] at h
          generalize hrebuilt : rebuild filter (List.replicate stride 0)
            (List.replicate stride 0) above (data.take size) = rebuilt at h
          cases hlater : unfilter stride size count rebuilt (data.drop size) with
          | none => simp [hlater] at h
          | some later =>
            obtain ⟨laterRows, laterRest⟩ := later
            simp only [hlater, Option.some.injEq, Prod.mk.injEq] at h
            obtain ⟨rfl, rfl⟩ := h
            obtain ⟨hcount, hrows⟩ := ih hlater
            have hfirst : rebuilt.length = size := by
              rw [← hrebuilt, rebuild_length, hsize]
            exact ⟨by rw [List.length_cons, hcount], List.forall_mem_cons.mpr ⟨hfirst, hrows⟩⟩
        · rw [if_neg hsize] at h
          cases h

/-- The rows of an image of a size hold its samples, no more and no fewer. -/
theorem length_flatten_readRows {header : Header} (hdepth : header.depth ∈ header.colour.depths)
    {width height : Nat} {data rest : List UInt8} {rows : List (List Nat)}
    (h : readRows header width height data = some (rows, rest)) :
    rows.flatten.length = width * height * header.colour.channels := by
  unfold readRows at h
  cases hrows : unfilter header.stride (header.rowBytes width) height [] data with
  | none => simp [hrows] at h
  | some result =>
    obtain ⟨bytes, left⟩ := result
    simp only [hrows, Option.some.injEq, Prod.mk.injEq] at h
    obtain ⟨rfl, rfl⟩ := h
    obtain ⟨hcount, hsizes⟩ := unfilter_rows hrows
    have hsamples : ∀ row ∈ bytes,
        (samplesOf header.depth (width * header.colour.channels) row).length =
          width * header.colour.channels :=
      fun row hrow => length_samplesOf hdepth (hsizes row hrow)
    rw [← List.flatMap_def, length_flatMap_of_forall hsamples, hcount, ← Nat.mul_assoc,
      Nat.mul_comm height width]

end Rows

section Passes

/-- What keeps the size of an array at every step keeps it over a list of steps. -/
theorem size_foldl {α β : Type} {step : Array α → β → Array α}
    (h : ∀ target item, (step target item).size = target.size) (items : List β)
    (target : Array α) : (items.foldl step target).size = target.size := by
  induction items generalizing target with
  | nil => rfl
  | cons item items ih => rw [List.foldl_cons, ih, h]

/-- Placing the samples of a row overwrites and adds none. -/
theorem size_placeRow (header : Header) (pass : Pass) (target : Array Nat) (row : Nat)
    (samples : List Nat) : (placeRow header pass target row samples).size = target.size := by
  unfold placeRow
  refine size_foldl (fun target item => ?_) _ target
  obtain ⟨sample, index⟩ := item
  exact Array.size_setIfInBounds

/-- The passes fill the image and leave its size. -/
theorem size_readPasses {header : Header} {rest : List Pass} {data : List UInt8}
    {target filled : Array Nat} (h : readPasses header rest data target = some filled) :
    filled.size = target.size := by
  induction rest generalizing data target with
  | nil =>
    cases h
    rfl
  | cons pass rest ih =>
    simp only [readPasses] at h
    split at h
    · exact ih h
    · cases hrows : readRows header (onGrid header.width pass.left pass.across)
          (onGrid header.height pass.top pass.down) data with
      | none => simp [hrows] at h
      | some result =>
        simp only [hrows] at h
        rw [ih h]
        refine size_foldl (fun target item => ?_) _ target
        obtain ⟨samples, row⟩ := item
        exact size_placeRow header pass target row samples

end Passes

/-- An image has a sample for every channel of every pixel, interlaced or not. -/
theorem length_readSamples {header : Header} (hdepth : header.depth ∈ header.colour.depths)
    {data : List UInt8} {samples : List Nat} (h : readSamples header data = some samples) :
    samples.length = header.width * header.height * header.colour.channels := by
  unfold readSamples at h
  split at h
  · split at h
    · cases h
    · obtain ⟨filled, hfilled, rfl⟩ := Option.map_eq_some_iff.mp h
      rw [Array.length_toList, size_readPasses hfilled, Array.size_replicate]
  · cases hrows : readRows header header.width header.height data with
    | none => simp [hrows] at h
    | some result =>
      simp only [hrows, Option.some.injEq] at h
      rw [← h]
      exact length_flatten_readRows hdepth hrows

section Colours

/-- Every grey sample gets its alpha. -/
theorem length_addAlpha_grey (opaqueAlpha : Nat) (transparent : Option (List Nat))
    (scale : Nat → Nat) (samples : List Nat) :
    (addAlpha opaqueAlpha transparent scale 1 samples).length = samples.length * 2 := by
  induction samples with
  | nil => rfl
  | cons grey rest ih =>
    rw [addAlpha, List.length_cons, List.length_cons, ih, List.length_cons]
    omega

/-- Every triple of colours gets its alpha. -/
theorem length_addAlpha_rgb (opaqueAlpha : Nat) (transparent : Option (List Nat))
    (scale : Nat → Nat) {samples : List Nat} {count : Nat} (h : samples.length = count * 3) :
    (addAlpha opaqueAlpha transparent scale 3 samples).length = count * 4 := by
  induction count generalizing samples with
  | zero =>
    rw [Nat.zero_mul, List.length_eq_zero_iff] at h
    rw [h]
    rfl
  | succ count ih =>
    match samples with
    | red :: green :: blue :: rest =>
      simp only [List.length_cons] at h
      have hlater := @ih rest (by omega)
      simp only [addAlpha, List.length_cons, hlater]
      omega
    | [] | [_] | [_, _] =>
      simp only [List.length_cons, List.length_nil] at h
      omega

/-- Every index of a palette stands for four samples. -/
theorem length_getD_paletteTable (palette alphas : List UInt8) (index : Nat) :
    ((paletteTable palette alphas).getD index [0, 0, 0, 255]).length = 4 := by
  by_cases hindex : index < palette.length / 3
  · have hcolour : min 3 (palette.length - 3 * index) = 3 := by omega
    simp [paletteTable, hindex, hcolour]
  · simp [paletteTable, hindex]

/-- Samples that fill the image make a full bitmap, whatever the colours. -/
theorem bitmapOf_full {preamble : Preamble} {samples : List Nat} {bitmap : Bitmap}
    (hlength : samples.length =
      preamble.header.width * preamble.header.height * preamble.header.colour.channels)
    (h : bitmapOf preamble samples = some bitmap) : bitmap.Full := by
  unfold bitmapOf at h
  dsimp only at h
  cases hcolour : preamble.header.colour with
  | grey =>
    simp only [hcolour, Colour.channels] at h hlength
    cases htransparent : preamble.transparency with
    | none =>
      simp only [htransparent, Option.some.injEq] at h
      rw [← h]
      exact .of_length (by decide) (by rw [List.length_map, hlength])
    | some content =>
      simp only [htransparent, Option.some.injEq] at h
      rw [← h]
      exact .of_length (by decide) (by rw [length_addAlpha_grey, hlength, Nat.mul_one])
  | rgb =>
    simp only [hcolour, Colour.channels] at h hlength
    cases htransparent : preamble.transparency with
    | none =>
      simp only [htransparent, Option.some.injEq] at h
      rw [← h]
      exact .of_length (by decide) hlength
    | some content =>
      simp only [htransparent, Option.some.injEq] at h
      rw [← h]
      exact .of_length (by decide) (length_addAlpha_rgb _ _ _ hlength)
  | palette =>
    simp only [hcolour, Colour.channels, Nat.mul_one] at h hlength
    cases hpalette : preamble.palette with
    | none => simp [hpalette] at h
    | some palette =>
      simp only [hpalette, Option.some.injEq] at h
      rw [← h]
      have hentries : ∀ index ∈ samples, ((paletteTable palette
          (preamble.transparency.getD [])).getD index [0, 0, 0, 255]).length = 4 :=
        fun index _ => length_getD_paletteTable _ _ index
      exact .of_length (by decide) (by rw [length_flatMap_of_forall hentries, hlength])
  | greyAlpha =>
    simp only [hcolour, Option.some.injEq] at h hlength
    rw [← h]
    exact .of_length (by decide) hlength
  | rgba =>
    simp only [hcolour, Option.some.injEq] at h hlength
    rw [← h]
    exact .of_length (by decide) hlength

end Colours

section Files

/-- A header that is read has a depth that goes with its colours. -/
theorem depth_of_read {content : List UInt8} {header : Header}
    (h : Header.read content = some header) : header.depth ∈ header.colour.depths := by
  unfold Header.read at h
  split at h
  · split at h
    · cases h
    · dsimp only at h
      rw [Option.ite_none_right_eq_some] at h
      obtain ⟨⟨_, _, _, _, hdepth, _⟩, hheader⟩ := h
      rw [← Option.some.inj hheader]
      exact hdepth
  · cases h

/-- A chunk before the image data leaves the header alone. -/
theorem Preamble.header_add {preamble later : Preamble} {chunk : Chunk}
    (h : preamble.add chunk = some later) : later.header = preamble.header := by
  unfold add at h
  split at h
  · split at h
    · simp only [Option.some.injEq] at h
      rw [← h]
    · cases h
  split at h
  · simp only [Option.some.injEq] at h
    rw [← h]
  split at h
  · split at h
    · simp only [Option.some.injEq] at h
      rw [← h]
    · cases h
  split at h
  · simp only [Option.some.injEq] at h
    rw [← h]
  · simp only [Option.some.injEq] at h
    rw [← h]

/-- All chunks before the image data leave the header alone. -/
theorem header_readPreamble {preamble later : Preamble} {source rest : List UInt8}
    (h : readPreamble preamble source = some (later, rest)) :
    later.header = preamble.header := by
  fun_induction readPreamble preamble source with
  | case1 preamble source hdata =>
    simp only [Option.some.injEq, Prod.mk.injEq] at h
    rw [h.1]
  | case2 preamble source hdata hchunk => cases h
  | case3 preamble source hdata chunk after hchunk next hnext ih =>
    rw [ih h, Preamble.header_add hnext]
  | case4 preamble source hdata chunk after hchunk hnext => cases h

/-- Every bitmap that a file is decoded to is full. -/
theorem full_of_decode {file : List UInt8} {bitmap : Bitmap} (h : decode file = some bitmap) :
    bitmap.Full := by
  unfold decode at h
  split at h
  case isFalse => cases h
  split at h
  case h_1 => cases h
  split at h
  case isFalse => cases h
  split at h
  case h_1 => cases h
  next header hheader =>
  split at h
  case h_1 => cases h
  next preamble rest hpreamble =>
  split at h
  case isTrue => cases h
  split at h
  case h_1 => cases h
  split at h
  case h_1 => cases h
  split at h
  case h_1 => cases h
  next samples hsamples =>
  have hsame : preamble.header = header := header_readPreamble hpreamble
  have hlength := length_readSamples (depth_of_read hheader) hsamples
  rw [← hsame] at hlength
  exact bitmapOf_full hlength h

end Files

end Png

end TrayIndicator.Icon
