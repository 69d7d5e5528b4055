import TrayIndicator.Path

/-!
# The bytes of ASCII characters

The bytes of a text are those of its characters, in their order. An ASCII character has one
byte, which occurs in no other character, so a text has the one exactly where its bytes have
the other.
-/

namespace TrayIndicator

namespace Text

/-- The bytes of a text are those of its characters. -/
theorem bytes_eq_flatMap (text : String) :
    bytes text = text.toList.flatMap String.utf8EncodeChar := by
  have hbytes : text.toUTF8 = (text.toList.flatMap String.utf8EncodeChar).toByteArray := by
    rw [String.toUTF8_eq_toByteArray, ← String.utf8Encode_toList]
    rfl
  rw [bytes, hbytes]
  simp

/-- Texts with the same bytes are the same. -/
theorem bytes_injective {first second : String} (h : bytes first = bytes second) :
    first = second := by
  have htexts := congrArg ofBytes? h
  rw [ofBytes?_bytes, ofBytes?_bytes] at htexts
  exact Option.some.inj htexts

/-- Is the character one of ASCII? -/
def IsAscii (c : Char) : Prop := c.toNat < 128

instance (c : Char) : Decidable (IsAscii c) := inferInstanceAs (Decidable (c.toNat < 128))

/-- The byte of an ASCII character. -/
def asciiByte (c : Char) : UInt8 := UInt8.ofNat c.toNat

/-- An ASCII character has one byte. -/
theorem utf8EncodeChar_of_isAscii {c : Char} (h : IsAscii c) :
    String.utf8EncodeChar c = [asciiByte c] := by
  have hlow : c.val.toNat ≤ 127 := Nat.le_of_lt_succ h
  simp only [String.utf8EncodeChar, hlow, if_true]
  rfl

/-- The byte of an ASCII character is its number. -/
theorem toNat_asciiByte {c : Char} (h : IsAscii c) : (asciiByte c).toNat = c.toNat :=
  UInt8.toNat_ofNat_of_lt' (Nat.lt_trans h (by decide))

/-- The bytes of other characters lie above those of ASCII. -/
theorem le_toNat_of_mem_utf8EncodeChar {c : Char} (h : ¬ IsAscii c) {byte : UInt8}
    (hbyte : byte ∈ String.utf8EncodeChar c) : 128 ≤ byte.toNat := by
  have hlow : ¬ c.val.toNat ≤ 127 := fun hle => h (Nat.lt_succ_of_le hle)
  have hhigh : ∀ number, 128 ≤ number → number < 256 → 128 ≤ (UInt8.ofNat number).toNat := by
    intro number hle hlt
    rwa [UInt8.toNat_ofNat_of_lt' hlt]
  simp only [String.utf8EncodeChar, hlow, if_false] at hbyte
  split at hbyte
  · simp only [List.mem_cons, List.not_mem_nil, or_false] at hbyte
    rcases hbyte with rfl | rfl <;> exact hhigh _ (by omega) (by omega)
  · split at hbyte
    · simp only [List.mem_cons, List.not_mem_nil, or_false] at hbyte
      rcases hbyte with rfl | rfl | rfl <;> exact hhigh _ (by omega) (by omega)
    · simp only [List.mem_cons, List.not_mem_nil, or_false] at hbyte
      rcases hbyte with rfl | rfl | rfl | rfl <;> exact hhigh _ (by omega) (by omega)

/-- The byte of an ASCII character occurs in no other character. -/
theorem asciiByte_mem_utf8EncodeChar_iff {c ascii : Char} (h : IsAscii ascii) :
    asciiByte ascii ∈ String.utf8EncodeChar c ↔ c = ascii := by
  by_cases hc : IsAscii c
  · rw [utf8EncodeChar_of_isAscii hc, List.mem_singleton, ← UInt8.toNat_inj, toNat_asciiByte h,
      toNat_asciiByte hc, Char.toNat_inj, eq_comm]
  · constructor
    · intro hmem
      have hhigh := le_toNat_of_mem_utf8EncodeChar hc hmem
      rw [toNat_asciiByte h] at hhigh
      exact absurd h (Nat.not_lt.mpr hhigh)
    · rintro rfl
      exact absurd h hc

/-- A text has an ASCII character where its bytes have the character's byte. -/
theorem asciiByte_mem_bytes_iff {text : String} {ascii : Char} (h : IsAscii ascii) :
    asciiByte ascii ∈ bytes text ↔ ascii ∈ text.toList := by
  simp only [bytes_eq_flatMap, List.mem_flatMap, asciiByte_mem_utf8EncodeChar_iff h,
    exists_eq_right]

/-- A text begins with an ASCII character exactly if its bytes begin with the character's
byte. -/
theorem head?_bytes_eq_some_iff {text : String} {ascii : Char} (h : IsAscii ascii) :
    (bytes text).head? = some (asciiByte ascii) ↔ text.toList.head? = some ascii := by
  rw [bytes_eq_flatMap]
  cases text.toList with
  | nil => simp
  | cons c rest =>
    have hfirst : ((c :: rest).flatMap String.utf8EncodeChar).head? =
        (String.utf8EncodeChar c).head? := by
      rw [List.flatMap_cons]
      cases hbytes : String.utf8EncodeChar c with
      | nil => exact absurd hbytes String.utf8EncodeChar_ne_nil
      | cons byte bytes => rfl
    rw [hfirst, List.head?_cons, Option.some.injEq]
    constructor
    · intro hhead
      exact (asciiByte_mem_utf8EncodeChar_iff h).mp (List.mem_of_head? hhead)
    · rintro rfl
      rw [utf8EncodeChar_of_isAscii h, List.head?_cons]

end Text

namespace Path

/-- The byte of the slash is that of the character. -/
theorem slash_eq : slash = Text.asciiByte '/' := rfl

/-- A text spells an absolute path exactly if it begins with a slash. -/
theorem isAbsolute_ofText_iff {text : String} :
    (ofText text).isAbsolute = true ↔ text.toList.head? = some '/' := by
  rw [isAbsolute, beq_iff_eq, ofText, slash_eq]
  exact Text.head?_bytes_eq_some_iff (by decide)

/-- The text of a path spells the path. -/
theorem ofText_of_text? {path : Path} {text : String} (h : path.text? = some text) :
    ofText text = path := by
  rw [ofText, Text.bytes_of_ofBytes? h]

end Path

end TrayIndicator
