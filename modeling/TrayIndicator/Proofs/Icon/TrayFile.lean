import TrayIndicator.Proofs.Icon.Chunks
import TrayIndicator.Proofs.Icon.Filtering
import TrayIndicator.Proofs.Icon.Shape
import TrayIndicator.Proofs.Icon.Stored

/-!
# An icon of the right size is shown as it is

A file that holds 32 by 32 pixels of eight-bit RGBA, row by row, is decoded to exactly
these pixels, whichever filters its rows have, however its image data are compressed and
split, and whatever else stands in it. The status item gets the same bytes with alpha in
front of each pixel. Any pixels, filtered in any way, stand in such a file.

Interlaced files and other kinds of colour are not described here.
-/

namespace TrayIndicator.Icon

section Pixels

/-- The pieces of one size from the beginning of a list on are that part of it. -/
theorem flatMap_pieces {α : Type} (size : ℕ) (list : List α) (count : ℕ) :
    ((List.range count).flatMap fun index => (list.drop (size * index)).take size) =
      list.take (size * count) := by
  induction count with
  | zero =>
    rw [Nat.mul_zero, List.take_zero]
    rfl
  | succ count ih =>
    rw [List.range_succ, List.flatMap_append, ih, List.flatMap_singleton, Nat.mul_succ,
      List.take_add]

/-- Four samples of a pixel that were bytes are the bytes again. -/
theorem rgbaBytes_toNat {rgba : List UInt8} {count : ℕ} (hlength : rgba.length = 4 * count) :
    rgbaBytes (fun sample => sample.toUInt8) 4 (rgba.map UInt8.toNat) = rgba := by
  induction count generalizing rgba with
  | zero =>
    have hempty : rgba = [] := List.length_eq_zero_iff.mp hlength
    rw [hempty]
    rfl
  | succ count ih =>
    match rgba with
    | red :: green :: blue :: alpha :: rest =>
      have hrest : rest.length = 4 * count := by
        simp only [List.length_cons] at hlength
        omega
      simp only [List.map_cons, rgbaBytes, ih hrest, Nat.toUInt8_eq, UInt8.ofNat_toNat]
    | [] | [_] | [_, _] | [_, _, _] =>
      simp only [List.length_cons, List.length_nil] at hlength
      omega

/-- A pixel of RGBA bytes with its alpha in front. -/
def argbPixel (rgba : List UInt8) (pixel : ℕ) : List UInt8 :=
  [rgba.getD (4 * pixel + 3) 0, rgba.getD (4 * pixel) 0, rgba.getD (4 * pixel + 1) 0,
    rgba.getD (4 * pixel + 2) 0]

/-- Alpha moves to the front pixel by pixel. -/
theorem alphaFirst_eq (rgba : List UInt8) :
    alphaFirst rgba = (List.range (rgba.length / 4)).flatMap (argbPixel rgba) := by
  fun_induction alphaFirst rgba with
  | case1 red green blue alpha rest ih =>
    have hcount : (red :: green :: blue :: alpha :: rest).length / 4 = rest.length / 4 + 1 := by
      simp only [List.length_cons]
      omega
    have hlater (pixel : ℕ) :
        argbPixel (red :: green :: blue :: alpha :: rest) (pixel + 1) = argbPixel rest pixel := rfl
    rw [hcount, List.range_succ_eq_map, List.flatMap_cons, List.flatMap_map, ih]
    simp only [Nat.succ_eq_add_one, hlater]
    rfl
  | case2 rgba hshort =>
    have hlength := alphaFirst_length rgba
    rw [alphaFirst] at hlength
    · have hcount : rgba.length / 4 = 0 := by
        simp only [List.length_nil] at hlength
        omega
      rw [hcount]
      rfl
    · exact hshort

/-- An image of the tray is published in its size, pixel by pixel. -/
theorem Image.FitsTray.pixmap_eq {image : Image} (h : image.FitsTray) :
    image.pixmap = ⟨32, 32, (List.range 1024).flatMap (argbPixel image.rgba)⟩ := by
  obtain ⟨hwidth, hheight, -⟩ := h.pixmap
  have hargb : image.pixmap.argb = alphaFirst image.rgba := rfl
  rw [alphaFirst_eq, h.length_rgba] at hargb
  cases hpixmap : image.pixmap with
  | mk width height argb =>
    simp only [hpixmap] at hwidth hheight hargb
    rw [hwidth, hheight, hargb]

end Pixels

namespace Png

/-- The header of an icon of the right size: eight bits of red, green, blue and alpha, row
by row. -/
def trayHeader : Header := ⟨32, 32, 8, .rgba, false⟩

/-- The chunk of that header. -/
def trayHeaderChunk : WholeChunk where
  name := chunkName "IHDR"
  content := bigEndianBytes 32 ++ (bigEndianBytes 32 ++ [8, 6, 0, 0, 0])
  length_name := by decide
  length_content := by decide

/-- A row of pixels. -/
def trayRow (pixels : Vector UInt8 4096) (index : ℕ) : List UInt8 :=
  (pixels.toList.drop (128 * index)).take 128

/-- The filtered rows of pixels, one below the other. -/
def trayRows (pixels : Vector UInt8 4096) (filters : ℕ → Filter) : List UInt8 :=
  (List.range 32).flatMap (storedRow filters (trayRow pixels) 4)

/-- A file that holds 32 by 32 pixels of eight-bit RGBA, row by row. -/
structure TrayFile where
  /-- The pixels. -/
  pixels : Vector UInt8 4096
  /-- The filter of each row. -/
  filters : ℕ → Filter
  /-- The chunks between the header and the image data. -/
  leading : List WholeChunk
  /-- The chunks of image data, into which the compressed rows are split. -/
  data : List WholeChunk
  /-- What follows the image data. -/
  rest : List UInt8
  /-- What precedes the image data may stand there. -/
  leading_ok : Leading trayHeader leading
  /-- Image data have their name. -/
  name_data : ∀ chunk ∈ data, chunk.name = imageData
  /-- Together the image data are inflated to the filtered rows. -/
  inflate_data : Inflate.inflate (data.flatMap (·.content)) = some (trayRows pixels filters)
  /-- Another chunk begins after the image data: in every file the last one is there. -/
  hasHead_rest : hasHead rest = true
  /-- It is not image data. -/
  nextName?_rest : nextName? rest ≠ some imageData

namespace TrayFile

/-- The bytes of the file. -/
def bytes (file : TrayFile) : List UInt8 :=
  signature ++ (trayHeaderChunk.bytes ++ (file.leading.flatMap WholeChunk.bytes ++
    (file.data.flatMap WholeChunk.bytes ++ file.rest)))

/-- The header of the file is read. -/
theorem read_trayHeader : Header.read trayHeaderChunk.content = some trayHeader := by decide

/-- Every row has four bytes for each of 32 pixels. -/
theorem length_trayRow (pixels : Vector UInt8 4096) {index : ℕ} (hindex : index < 32) :
    (trayRow pixels index).length = 128 := by
  rw [trayRow, List.length_take, List.length_drop, Vector.length_toList]
  omega

/-- The filtered rows are longer by the numbers of their filters. -/
theorem length_trayRows (pixels : Vector UInt8 4096) (filters : ℕ → Filter) :
    (trayRows pixels filters).length = 4128 := by
  have hrow : ∀ index ∈ List.range 32,
      (storedRow filters (trayRow pixels) 4 index).length = 129 := by
    intro index hindex
    rw [storedRow, List.length_cons, length_filteredRow,
      length_trayRow pixels (List.mem_range.mp hindex)]
  rw [trayRows, List.length_flatMap, List.map_congr_left hrow]
  rfl

/-- The rows one below the other are the pixels. -/
theorem flatMap_trayRow (pixels : Vector UInt8 4096) :
    (List.range 32).flatMap (trayRow pixels) = pixels.toList := by
  have hpieces := flatMap_pieces 128 pixels.toList 32
  have hall : pixels.toList.take (128 * 32) = pixels.toList :=
    List.take_of_length_le (by rw [Vector.length_toList])
  rwa [hall] at hpieces

/-- The samples that are read from the filtered rows are the pixels. -/
theorem readSamples_trayRows (pixels : Vector UInt8 4096) (filters : ℕ → Filter) :
    readSamples trayHeader (trayRows pixels filters) = some (pixels.toList.map UInt8.toNat) := by
  have hstride : 0 < 4 := by decide
  have hrebuilt := unfilter_storedRows filters (trayRow pixels) hstride 32
    (fun index hindex => length_trayRow pixels hindex) []
  rw [List.append_nil] at hrebuilt
  have hrows : readRows trayHeader trayHeader.width trayHeader.height (trayRows pixels filters) =
      some (((List.range 32).map (trayRow pixels)).map (List.map UInt8.toNat), []) := by
    have hunfiltered : unfilter trayHeader.stride (trayHeader.rowBytes trayHeader.width)
        trayHeader.height [] (trayRows pixels filters) =
          some ((List.range 32).map (trayRow pixels), []) := hrebuilt
    rw [readRows, hunfiltered]
    rfl
  have hflat : (((List.range 32).map (trayRow pixels)).map (List.map UInt8.toNat)).flatten =
      pixels.toList.map UInt8.toNat := by
    rw [← List.map_flatten, ← List.flatMap_def, flatMap_trayRow]
  rw [readSamples, if_neg (by decide), hrows]
  exact congrArg some hflat

/-- There are image data, as no rows are inflated from nothing. -/
theorem nextName?_data (file : TrayFile) :
    nextName? (file.data.flatMap WholeChunk.bytes ++ file.rest) = some imageData := by
  cases hdata : file.data with
  | nil =>
    have hnothing := file.inflate_data
    have hlength := length_trayRows file.pixels file.filters
    rw [hdata] at hnothing
    have hrows : trayRows file.pixels file.filters = [] := (Option.some.inj hnothing).symm
    rw [hrows] at hlength
    cases hlength
  | cons chunk chunks =>
    have hname : chunk.name = imageData := file.name_data chunk (by rw [hdata]; exact .head _)
    rw [List.flatMap_cons, List.append_assoc, WholeChunk.nextName?_bytes, hname]

/-- The file is decoded to the samples of its pixels. -/
theorem decode_samples (file : TrayFile) :
    Png.decode file.bytes = some ⟨32, 32, 4, false, file.pixels.toList.map UInt8.toNat⟩ := by
  have hnext := nextName?_data file
  obtain ⟨preamble, hpreamble, hheader⟩ :=
    (Preamble.Awaits.start file.leading_ok).readPreamble_bytes hnext
  have hrun : preamble.readRun (file.data.flatMap WholeChunk.bytes ++ file.rest) =
      some (file.data.flatMap (·.content)) := by
    have hnames : ¬ nextName? (file.data.flatMap WholeChunk.bytes ++ file.rest) =
        some frameData := by
      rw [hnext]
      decide
    rw [Preamble.readRun, if_neg hnames,
      readData_bytes file.name_data file.hasHead_rest file.nextName?_rest]
  have hsamples := readSamples_trayRows file.pixels file.filters
  have hbitmap (samples : List ℕ) :
      bitmapOf preamble samples = some ⟨32, 32, 4, false, samples⟩ := by
    rw [bitmapOf, hheader]
    rfl
  have hcolour : ¬ (trayHeader.colour = .palette ∧ preamble.palette.isNone = true) := by
    intro hpalette
    exact absurd hpalette.1 (by decide)
  have hfirst : trayHeaderChunk.read.name = chunkName "IHDR" ∧ trayHeaderChunk.read.intact = true :=
    ⟨rfl, rfl⟩
  have hsignature : file.bytes.take 8 = signature := rfl
  have hafter : file.bytes.drop 8 = trayHeaderChunk.bytes ++
      (file.leading.flatMap WholeChunk.bytes ++
        (file.data.flatMap WholeChunk.bytes ++ file.rest)) := rfl
  rw [Png.decode, if_pos hsignature, hafter, WholeChunk.chunk?_bytes]
  simp only [if_pos hfirst, WholeChunk.content_read, read_trayHeader, hpreamble, if_neg hcolour,
    hrun, file.inflate_data, hsamples, hbitmap]

/-- The file is decoded to its pixels. -/
theorem decode_bytes (file : TrayFile) :
    Icon.decode file.bytes = .ok ⟨32, 32, file.pixels.toList⟩ := by
  have hlength : file.pixels.toList.length = 4 * 1024 := file.pixels.length_toList
  have hpixels := rgbaBytes_toNat hlength
  have hdecoded := decode_samples file
  rw [Icon.decode, hdecoded]
  exact congrArg (fun rgba => Except.ok (Image.mk 32 32 rgba)) hpixels

/-- The chunk that ends a file. -/
def lastChunk : WholeChunk where
  name := chunkName "IEND"
  content := []
  length_name := by decide
  length_content := by decide

/-- The file of any pixels, filtered in any way, with its rows stored in one chunk. -/
def ofPixels (pixels : Vector UInt8 4096) (filters : ℕ → Filter) : TrayFile where
  pixels := pixels
  filters := filters
  leading := []
  data := [⟨imageData, Inflate.stored (trayRows pixels filters) [], by decide, by
    rw [Inflate.length_stored, length_trayRows]
    decide⟩]
  rest := lastChunk.bytes
  leading_ok := Leading.nil trayHeader
  name_data := by simp
  inflate_data := by
    have hsize : (trayRows pixels filters).length < 65536 := by
      rw [length_trayRows]
      decide
    rw [List.flatMap_singleton, Inflate.inflate_stored hsize]
  hasHead_rest := by decide
  nextName?_rest := by decide

end TrayFile

end Png

/-- An icon of 32 by 32 pixels is shown pixel for pixel. Every file that holds them as
eight-bit RGBA, row by row, is decoded to exactly these pixels: whichever filters the rows
have, into however many chunks the compressed rows are split, and whatever may be skipped
in it. What is published of them is alpha, red, green and blue of each pixel in turn. For
all pixels and any filters of their rows there is such a file. -/
theorem tray_file_shown_unchanged :
    (∀ file : Png.TrayFile,
      let image : Image := ⟨32, 32, file.pixels.toList⟩
      decode file.bytes = .ok image ∧
        image.pixmap = ⟨32, 32, (List.range 1024).flatMap (argbPixel file.pixels.toList)⟩) ∧
    ∀ pixels filters, ∃ file : Png.TrayFile, file.pixels = pixels ∧ file.filters = filters := by
  constructor
  · intro file image
    have hfits : image.FitsTray := ⟨rfl, rfl, file.pixels.length_toList⟩
    constructor
    · exact file.decode_bytes
    · exact hfits.pixmap_eq
  · intro pixels filters
    exact ⟨.ofPixels pixels filters, rfl, rfl⟩

end TrayIndicator.Icon
