/-!
# Chunks of a PNG file

After its signature a PNG file is a sequence of chunks: a length, a name of
four letters, the content and a checksum over name and content. A capital
first letter marks a chunk that may not be skipped.
-/

namespace TrayIndicator.Icon.Png

/-- The signature that begins every file. -/
def signature : List UInt8 := [0x89, 0x50, 0x4E, 0x47, 0x0D, 0x0A, 0x1A, 0x0A]

/-- The number that bytes spell, the most significant first. -/
def bigEndian (bytes : List UInt8) : Nat :=
  bytes.foldl (fun value byte => 256 * value + byte.toNat) 0

/-- One step of the checksum for one bit. -/
def crcBit (remainder : UInt32) : UInt32 :=
  if remainder &&& 1 = 1 then (0xEDB88320 : UInt32) ^^^ (remainder >>> 1) else remainder >>> 1

/-- The checksum's remainder after one byte, for each value of the low byte. -/
def crcTable : Array UInt32 :=
  ((List.range 256).map fun byte =>
    (List.range 8).foldl (fun remainder _ => crcBit remainder) byte.toUInt32).toArray

/-- The checksum of bytes. -/
def crc (bytes : List UInt8) : UInt32 :=
  bytes.foldl (fun (remainder : UInt32) byte =>
    crcTable.getD ((remainder ^^^ byte.toUInt32) &&& 0xFF).toNat 0 ^^^ (remainder >>> 8))
    0xFFFFFFFF ^^^ 0xFFFFFFFF

/-- A chunk as it stands in a file. -/
structure Chunk where
  /-- The four letters of its name. -/
  name : List UInt8
  /-- Its content. -/
  content : List UInt8
  /-- Does the checksum fit? -/
  intact : Bool

/-- The name of a chunk from its letters. -/
def chunkName (letters : String) : List UInt8 := letters.toUTF8.data.toList

/-- Must a chunk of this name be understood? -/
def isCritical (name : List UInt8) : Bool :=
  match name with
  | first :: _ => first &&& 0x20 = 0
  | [] => true

/-- Does the file go on with the head of a chunk, its length and its name? -/
def hasHead (source : List UInt8) : Bool := 8 ≤ (source.take 8).length

/-- The name of the next chunk, if its head is there. -/
def nextName? (source : List UInt8) : Option (List UInt8) :=
  if hasHead source then some ((source.drop 4).take 4) else none

/-- Takes the next whole chunk off a file. -/
def chunk? (source : List UInt8) : Option (Chunk × List UInt8) :=
  if hasHead source then
    let length := bigEndian (source.take 4)
    let named := source.drop 4
    let covered := named.take (4 + length)
    let after := named.drop (4 + length)
    let sum := after.take 4
    if covered.length = 4 + length ∧ sum.length = 4 then
      some (⟨covered.take 4, covered.drop 4, (crc covered).toNat = bigEndian sum⟩, after.drop 4)
    else none
  else none

/-- The rest after a chunk is shorter than the file before it. -/
theorem chunk?_length {source rest : List UInt8} {chunk : Chunk}
    (h : chunk? source = some (chunk, rest)) : rest.length < source.length := by
  unfold chunk? at h
  split at h
  · dsimp only at h
    split at h
    · simp only [Option.some.injEq, Prod.mk.injEq] at h
      obtain ⟨-, rfl⟩ := h
      have hh : hasHead source = true := by assumption
      simp only [hasHead, decide_eq_true_eq, List.length_take] at hh
      simp only [List.length_drop]
      omega
    · exact absurd h (by simp)
  · exact absurd h (by simp)

end TrayIndicator.Icon.Png
