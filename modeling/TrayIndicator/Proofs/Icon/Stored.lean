import Mathlib.Tactic.Ring
import TrayIndicator.Icon.Inflate

/-!
# Stored data

Data of fewer than 65536 bytes can stand in a stream as they are, in one stored
block. Such a stream is inflated to exactly these data, whatever follows them. So
there is a stream for all such data.
-/

namespace TrayIndicator.Icon.Inflate

section Bits

variable (data : Array UInt8)

/-- A number of several bits is that of its low bits and that of the bits above. -/
theorem bitsAt_add (low high position : ℕ) :
    bitsAt data (low + high) position =
      bitsAt data low position + 2 ^ low * bitsAt data high (position + low) := by
  induction low generalizing position with
  | zero => simp [bitsAt]
  | succ low ih =>
    have hsplit := ih (position + 1)
    have hplace : position + 1 + low = position + (low + 1) := by omega
    rw [hplace] at hsplit
    rw [Nat.succ_add, bitsAt, bitsAt, hsplit, Nat.pow_succ]
    ring

/-- Bits within a byte are the number that its bits from there on make. -/
theorem bitsAt_within (index count bit : ℕ) (hbits : bit + count ≤ 8) :
    bitsAt data count (8 * index + bit) = (data.getD index 0).toNat / 2 ^ bit % 2 ^ count := by
  induction count generalizing bit with
  | zero => rw [bitsAt, Nat.pow_zero, Nat.mod_one]
  | succ count ih =>
    have hindex : (8 * index + bit) / 8 = index := by omega
    have hwithin : (8 * index + bit) % 8 = bit := by omega
    have hlater := ih (bit + 1) (by omega)
    rw [← Nat.add_assoc] at hlater
    rw [bitsAt, bitAt, hindex, hwithin, hlater, Nat.shiftRight_eq_div_pow, Nat.pow_succ,
      ← Nat.div_div_eq_div_mul, Nat.pow_succ', Nat.mod_mul]

/-- Eight bits from the beginning of a byte on are that byte. -/
theorem bitsAt_byte (index : ℕ) : bitsAt data 8 (8 * index) = (data.getD index 0).toNat := by
  have hbits := bitsAt_within data index 8 0 (by decide)
  have hbyte : (data.getD index 0).toNat < 2 ^ 8 := (data.getD index 0).toNat_lt
  rwa [Nat.add_zero, Nat.pow_zero, Nat.div_one, Nat.mod_eq_of_lt hbyte] at hbits

/-- Sixteen bits from the beginning of a byte on are a pair of bytes, the low one
first. -/
theorem bitsAt_pair (index : ℕ) :
    bitsAt data 16 (8 * index) =
      (data.getD index 0).toNat + 256 * (data.getD (index + 1) 0).toNat := by
  have hlow := bitsAt_byte data index
  have hhigh := bitsAt_byte data (index + 1)
  have hsplit := bitsAt_add data 8 8 (8 * index)
  rw [← Nat.mul_succ, hlow, hhigh] at hsplit
  exact hsplit

end Bits

/-- A number of sixteen bits as two bytes, the low one first. -/
def littlePair (value : ℕ) : List UInt8 := [UInt8.ofNat value, UInt8.ofNat (value / 256)]

/-- A stream that holds data as they are: the two bytes of its head, one byte that begins
a last block of the stored kind, the length of the data with its complement, and the
data. What follows does not count. -/
def stored (data rest : List UInt8) : List UInt8 :=
  0x78 :: 0x01 :: 0x01 :: (littlePair data.length ++ littlePair (65535 - data.length) ++
    (data ++ rest))

/-- Copying stored bytes appends those that are there. -/
theorem toList_copyStored (data : Array UInt8) (count index : ℕ) (output : Array UInt8) :
    (copyStored data count index output).toList =
      output.toList ++ (data.toList.drop index).take count := by
  induction count generalizing index output with
  | zero => simp [copyStored]
  | succ count ih =>
    rw [copyStored]
    cases hbyte : data[index]? with
    | none =>
      have hend : data.toList.length ≤ index := by simpa using hbyte
      rw [List.drop_of_length_le hend]
      simp
    | some byte =>
      obtain ⟨hindex, hget⟩ := Array.getElem?_eq_some_iff.mp hbyte
      have hlist : data.toList.drop index = byte :: data.toList.drop (index + 1) := by
        rw [List.drop_eq_getElem_cons (by simpa using hindex), Array.getElem_toList, hget]
      simp only
      rw [ih, hlist, List.take_succ_cons, Array.toList_push, List.append_assoc,
        List.singleton_append]

/-- The sizes at the head of a stored block are the length of the data and its
complement. -/
theorem bitsAt_sizes {data : List UInt8} (hsize : data.length < 65536) (rest : List UInt8) :
    bitsAt (stored data rest).toArray 32 24 =
      data.length + 65536 * (65535 - data.length) := by
  have hlow : bitsAt (stored data rest).toArray 16 24 = data.length := by
    have hpair := bitsAt_pair (stored data rest).toArray 3
    simp [stored, littlePair] at hpair ⊢
    omega
  have hhigh : bitsAt (stored data rest).toArray 16 40 = 65535 - data.length := by
    have hpair := bitsAt_pair (stored data rest).toArray 5
    simp [stored, littlePair] at hpair ⊢
    omega
  have hsplit := bitsAt_add (stored data rest).toArray 16 16 24
  rw [hlow, hhigh] at hsplit
  exact hsplit

/-- A stored stream has seven bytes beside its data and what follows them. -/
theorem length_stored (data rest : List UInt8) :
    (stored data rest).length = 7 + (data.length + rest.length) := by
  simp [stored, littlePair]
  omega

/-- The block of a stored stream is read as its data, up to their end. -/
theorem readStored_stored {data : List UInt8} (hsize : data.length < 65536)
    (rest : List UInt8) :
    readStored (stored data rest).toArray 19 #[] =
      (data.toArray, .ok (56 + 8 * data.length)) := by
  have hsizes := bitsAt_sizes hsize rest
  have hlength : (stored data rest).toArray.size = 7 + (data.length + rest.length) := by
    rw [List.size_toArray, length_stored]
  have hthere : hasBits (stored data rest).toArray 32 24 = true := by
    rw [hasBits, hlength, decide_eq_true_iff]
    omega
  have hbits : bits (stored data rest).toArray 32 24 =
      .ok (data.length + 65536 * (65535 - data.length), 56) := by
    rw [bits, if_pos hthere, hsizes]
  have hlow : (data.length + 65536 * (65535 - data.length)) % 65536 = data.length := by omega
  have hhigh : (data.length + 65536 * (65535 - data.length)) / 65536 = 65535 - data.length := by
    omega
  have hsum : data.length + (65535 - data.length) = 0xFFFF := by omega
  have hdata : hasBits (stored data rest).toArray (8 * data.length) 56 = true := by
    rw [hasBits, hlength, decide_eq_true_iff]
    omega
  have hdrop : (stored data rest).drop 7 = data ++ rest := by simp [stored, littlePair]
  have hcopied : copyStored (stored data rest).toArray data.length 7 #[] = data.toArray := by
    have hlist := toList_copyStored (stored data rest).toArray data.length 7 #[]
    rw [hdrop, List.take_left] at hlist
    exact Array.toList_inj.mp hlist
  -- the head of the block ends within the third byte, and its sizes begin with the fourth
  have hplace : (19 + 7) / 8 * 8 = 24 := by decide
  rw [readStored, hplace, hbits]
  dsimp only
  rw [hlow, hhigh, hsum, hcopied, hdata]
  rfl

/-- A stream is inflated to what its blocks hold, if its head is right. -/
theorem inflate_of_blocks {method flags : UInt8} {later : List UInt8}
    (hhead : method.toNat % 16 = 8 ∧ method.toNat / 16 ≤ 7 ∧
      (256 * method.toNat + flags.toNat) % 31 = 0 ∧ flags.toNat / 32 % 2 = 0)
    {output : Array UInt8} {position : ℕ}
    (hblocks : ∀ steps count, readBlocks (method :: flags :: later).toArray steps (count + 1) 16
      #[] = (output, .ok position)) :
    inflate (method :: flags :: later) = some output.toList := by
  rw [inflate]
  dsimp only
  rw [if_pos hhead, hblocks]

/-- A stored stream is inflated to its data. -/
theorem inflate_stored {data : List UInt8} (hsize : data.length < 65536) (rest : List UInt8) :
    inflate (stored data rest) = some data := by
  have hread := readStored_stored hsize rest
  have hbyte : (stored data rest).toArray.getD 2 0 = 0x01 := by simp [stored]
  have hhead : bitsAt (stored data rest).toArray 3 16 = 1 := by
    have hbits := bitsAt_within (stored data rest).toArray 2 3 0 (by decide)
    rw [hbyte] at hbits
    exact hbits
  have hthere : hasBits (stored data rest).toArray 3 16 = true := by
    rw [hasBits, List.size_toArray, length_stored, decide_eq_true_iff]
    omega
  have hbits : bits (stored data rest).toArray 3 16 = .ok (1, 19) := by
    rw [bits, if_pos hthere, hhead]
  have hblocks (steps count : ℕ) :
      readBlocks (stored data rest).toArray steps (count + 1) 16 #[] =
        (data.toArray, .ok (56 + 8 * data.length)) := by
    rw [readBlocks, hbits]
    dsimp only
    rw [readBlock, hread]
    rfl
  exact inflate_of_blocks (by decide) hblocks

end TrayIndicator.Icon.Inflate
