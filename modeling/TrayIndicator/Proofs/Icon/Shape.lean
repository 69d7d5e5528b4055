import TrayIndicator.Icon.Load
import TrayIndicator.Proofs.Icon.Samples

/-!
# The shape of icons

Every image that loading an icon comes to has the size of the tray icon and four
bytes for each of its pixels: what is decoded from a file, and the placeholder
where nothing is. What is published of it has that shape too.
-/

namespace TrayIndicator.Icon

/-- What an image of the tray is: 32 rows of 32 pixels, four bytes each. -/
structure Image.FitsTray (image : Image) : Prop where
  /-- It is 32 pixels wide. -/
  width_eq : image.width = 32
  /-- It is 32 pixels high. -/
  height_eq : image.height = 32
  /-- It has the bytes of its pixels and no others. -/
  length_rgba : image.rgba.length = 4096

section Bitmaps

/-- The samples of the first pixel become four bytes, and the others come after them. -/
theorem rgbaBytes_pixel (byte : Nat → UInt8) {channels : Nat} (hpos : 0 < channels)
    (hle : channels ≤ 4) {samples : List Nat} (h : channels ≤ samples.length) :
    ∃ pixel, pixel.length = 4 ∧ rgbaBytes byte channels samples =
      pixel ++ rgbaBytes byte channels (samples.drop channels) := by
  have hchannels : channels = 1 ∨ channels = 2 ∨ channels = 3 ∨ channels = 4 := by omega
  rcases hchannels with rfl | rfl | rfl | rfl
  · match samples with
    | grey :: rest => exact ⟨[byte grey, byte grey, byte grey, 255], rfl, rfl⟩
  · match samples with
    | grey :: alpha :: rest => exact ⟨[byte grey, byte grey, byte grey, byte alpha], rfl, rfl⟩
  · match samples with
    | red :: green :: blue :: rest => exact ⟨[byte red, byte green, byte blue, 255], rfl, rfl⟩
  · match samples with
    | red :: green :: blue :: alpha :: rest =>
      exact ⟨[byte red, byte green, byte blue, byte alpha], rfl, rfl⟩

/-- Every pixel becomes four bytes. -/
theorem length_rgbaBytes (byte : Nat → UInt8) {channels : Nat} (hpos : 0 < channels)
    (hle : channels ≤ 4) {count : Nat} {samples : List Nat}
    (h : samples.length = count * channels) :
    (rgbaBytes byte channels samples).length = count * 4 := by
  induction count generalizing samples with
  | zero =>
    have hchannels : channels = 1 ∨ channels = 2 ∨ channels = 3 ∨ channels = 4 := by omega
    rw [Nat.zero_mul, List.length_eq_zero_iff] at h
    rw [h]
    rcases hchannels with rfl | rfl | rfl | rfl <;> rfl
  | succ count ih =>
    have hfirst : channels ≤ samples.length := by
      rw [h, Nat.succ_mul]
      omega
    have hothers : (samples.drop channels).length = count * channels := by
      rw [List.length_drop, h, Nat.succ_mul, Nat.add_sub_cancel]
    obtain ⟨pixel, hpixel, hbytes⟩ := rgbaBytes_pixel byte hpos hle hfirst
    rw [hbytes, List.length_append, hpixel, ih hothers]
    omega

/-- Scaling gives a sample to every channel of every pixel of the tray icon. -/
theorem length_scaledSamples (bitmap : Bitmap) :
    (scaledSamples bitmap).length = iconSize * iconSize * bitmap.channels := by
  have hrow (columns : Array Float32) (y : Nat) :
      (((List.range iconSize).map (window bitmap.width)).flatMap fun window =>
        (List.range bitmap.channels).map fun channel =>
          toSample bitmap.greatest (weighted columns
            (y * (bitmap.width * bitmap.channels) + window.left * bitmap.channels + channel)
              bitmap.channels window.weights)).length = iconSize * bitmap.channels := by
    rw [length_flatMap_of_forall fun window _ => by rw [List.length_map, List.length_range],
      List.length_map, List.length_range]
  unfold scaledSamples
  dsimp only
  rw [length_flatMap_of_forall fun y _ => hrow _ y, List.length_range, Nat.mul_assoc]

/-- A full bitmap is full at the size of the tray icon. -/
theorem Bitmap.Full.toIconSize {bitmap : Bitmap} (h : bitmap.Full) : bitmap.toIconSize.Full := by
  unfold Bitmap.toIconSize
  split
  · exact h
  · exact ⟨h.channels_pos, h.channels_le, length_scaledSamples bitmap⟩

/-- A full bitmap becomes an image of the tray. -/
theorem Bitmap.Full.fitsTray {bitmap : Bitmap} (h : bitmap.Full) :
    bitmap.toIconSize.image.FitsTray := by
  obtain ⟨hwidth, hheight⟩ := bitmap.toIconSize_size
  have hfull := h.toIconSize
  have hlength := length_rgbaBytes bitmap.toIconSize.byte hfull.channels_pos hfull.channels_le
    hfull.length_samples
  rw [hwidth, hheight] at hlength
  exact ⟨hwidth, hheight, hlength⟩

end Bitmaps

/-- The placeholder is an image of the tray. -/
theorem placeholder_fitsTray : placeholder.FitsTray := by
  have hpixel (x y : Nat) : (placeholderPixel x y).length = 4 := by
    simp only [placeholderPixel]
    split
    · rfl
    · split <;> rfl
  have hrow (y : Nat) :
      ((List.range iconSize).flatMap fun x => placeholderPixel x y).length = iconSize * 4 := by
    rw [length_flatMap_of_forall fun x _ => hpixel x y, List.length_range]
  refine ⟨rfl, rfl, ?_⟩
  unfold placeholder
  dsimp only
  rw [length_flatMap_of_forall fun y _ => hrow y, List.length_range]
  rfl

/-- Whatever bytes a file has, what is decoded from it is an image of the tray. -/
theorem fitsTray_of_decode {file : List UInt8} {image : Image} (h : decode file = .ok image) :
    image.FitsTray := by
  unfold decode at h
  split at h
  · next bitmap hbitmap =>
    rw [← Except.ok.inj h]
    exact (Png.full_of_decode hbitmap).fitsTray
  · cases h

/-- What is read from a path is an image of the tray. -/
theorem fitsTray_of_read {world : World} {path : Path} {image : Image}
    (h : read world path = .ok image) : image.FitsTray := by
  unfold read at h
  split at h
  · exact fitsTray_of_decode ((decode_eq_ok_iff _).mp h)
  · cases h

/-- Loading an icon always comes to an image of the tray. -/
theorem readOrPlaceholder_fitsTray (world : World) (path : Path) :
    (readOrPlaceholder world path).1.FitsTray := by
  unfold readOrPlaceholder
  split
  · next image himage => exact fitsTray_of_read himage
  · exact placeholder_fitsTray

/-- An image of the tray is published in its size, with four bytes for each pixel. -/
theorem Image.FitsTray.pixmap {image : Image} (h : image.FitsTray) :
    image.pixmap.width = 32 ∧ image.pixmap.height = 32 ∧ image.pixmap.argb.length = 4096 := by
  unfold Image.pixmap
  refine ⟨?_, ?_, ?_⟩
  · rw [h.width_eq]
    rfl
  · rw [h.height_eq]
    rfl
  · rw [alphaFirst_length, h.length_rgba]

end TrayIndicator.Icon
