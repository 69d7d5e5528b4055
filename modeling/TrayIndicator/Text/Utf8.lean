/-!
# Texts and their bytes

A text is a `String`; file contents, paths, arguments and environment values
are byte lists that need not spell a text. `ofBytes?` accepts exactly the
well-formed byte lists, and `ofBytesLossy` always answers, replacing every
maximal ill-formed piece by U+FFFD.
-/

namespace TrayIndicator.Text

/-- The bytes of a text in UTF-8. -/
def bytes (text : String) : List UInt8 := text.toUTF8.data.toList

/-- The text that a byte list spells, if it is well-formed UTF-8. -/
def ofBytes? (source : List UInt8) : Option String := String.fromUTF8? ⟨source.toArray⟩

/-- Reading back the bytes of a text gives the text. -/
@[simp]
theorem ofBytes?_bytes (text : String) : ofBytes? (bytes text) = some text := by
  simp only [ofBytes?, bytes, String.fromUTF8?, String.toUTF8_eq_toByteArray, Array.toArray_toList,
    dif_pos text.isValidUTF8]
  rfl

/-- A byte list that spells a text holds that text's bytes. -/
theorem bytes_of_ofBytes? {source : List UInt8} {text : String}
    (h : ofBytes? source = some text) : bytes text = source := by
  unfold ofBytes? String.fromUTF8? at h
  split at h
  · simp only [Option.some.injEq] at h
    subst h
    change (⟨source.toArray⟩ : ByteArray).data.toList = source
    simp
  · exact absurd h (by simp)

/-- What a leading byte promises: how many bytes follow it, the range of the
first of them, and its own share of the scalar value. -/
structure Lead where
  /-- Number of bytes that follow. -/
  trailing : Nat
  /-- Least second byte; it excludes overlong spellings. -/
  low : UInt8
  /-- Greatest second byte; it excludes surrogates and values past U+10FFFF. -/
  high : UInt8
  /-- The bits of the scalar value that the leading byte holds. -/
  bits : Nat

/-- The promise of a leading byte; `none` for a byte that cannot lead. -/
def lead? (byte : UInt8) : Option Lead :=
  if byte < 0x80 then some ⟨0, 0x80, 0xBF, byte.toNat⟩
  else if byte < 0xC2 then none
  else if byte < 0xE0 then some ⟨1, 0x80, 0xBF, byte.toNat - 0xC0⟩
  else if byte = 0xE0 then some ⟨2, 0xA0, 0xBF, 0⟩
  else if byte = 0xED then some ⟨2, 0x80, 0x9F, 0xD⟩
  else if byte < 0xF0 then some ⟨2, 0x80, 0xBF, byte.toNat - 0xE0⟩
  else if byte = 0xF0 then some ⟨3, 0x90, 0xBF, 0⟩
  else if byte < 0xF4 then some ⟨3, 0x80, 0xBF, byte.toNat - 0xF0⟩
  else if byte = 0xF4 then some ⟨3, 0x80, 0x8F, 4⟩
  else none

/-- Reads the promised following bytes on top of `value`. The value is `none`
when one of them is out of range; that byte then stays in the rest. -/
def trailing : Nat → UInt8 → UInt8 → Nat → List UInt8 → Option Nat × List UInt8
  | 0, _, _, value, rest => (some value, rest)
  | _ + 1, _, _, _, [] => (none, [])
  | count + 1, low, high, value, byte :: rest =>
    if low ≤ byte ∧ byte ≤ high then
      trailing count 0x80 0xBF (value * 64 + (byte.toNat - 0x80)) rest
    else (none, byte :: rest)

/-- Reading following bytes never lengthens the rest. -/
theorem trailing_length_le (count : Nat) (low high : UInt8) (value : Nat) (source : List UInt8) :
    (trailing count low high value source).2.length ≤ source.length := by
  induction count generalizing low high value source with
  | zero => simp [trailing]
  | succ count ih =>
    cases source with
    | nil => simp [trailing]
    | cons byte rest =>
      simp only [trailing]
      split
      · exact Nat.le_succ_of_le (ih ..)
      · exact Nat.le_refl _

/-- The replacement character U+FFFD. -/
def replacement : Char := '\uFFFD'

/-- The characters of a byte list, with one replacement character for every
maximal piece that no well-formed sequence continues. -/
def charsLossy : List UInt8 → List Char
  | [] => []
  | byte :: rest =>
    match lead? byte with
    | none => replacement :: charsLossy rest
    | some lead =>
      match _h : trailing lead.trailing lead.low lead.high lead.bits rest with
      | (some value, rest') => Char.ofNat value :: charsLossy rest'
      | (none, rest') => replacement :: charsLossy rest'
termination_by source => source.length
decreasing_by
  all_goals simp_wf
  all_goals
    have := trailing_length_le lead.trailing lead.low lead.high lead.bits rest
    rw [_h] at this
    simp only at this
    omega

/-- The text of a byte list for showing, ill-formed pieces replaced. -/
def ofBytesLossy (source : List UInt8) : String :=
  match ofBytes? source with
  | some text => text
  | none => String.ofList (charsLossy source)

end TrayIndicator.Text
