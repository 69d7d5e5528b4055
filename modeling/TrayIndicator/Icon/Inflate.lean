/-!
# Inflating compressed data

The compressed data of an image is a zlib stream: a header, blocks that are
stored or coded by prefix codes, and a checksum. Bits are taken from each byte
from the low end up. A stream that is cut off still gives the bytes that were
read before its end; a damaged one gives nothing. The checksum is not looked at,
nor is what follows it.
-/

namespace TrayIndicator.Icon.Inflate

/-- Why reading stops before the end of the stream. -/
inductive Stop where
  /-- The data end within it. -/
  | cutOff
  /-- The data break its rules. -/
  | damaged
  deriving DecidableEq, Repr

/-- The bit at a position; zero past the end of the data. -/
def bitAt (data : Array UInt8) (position : Nat) : Nat :=
  ((data.getD (position / 8) 0).toNat >>> (position % 8)) % 2

/-- The number in so many bits from a position on, the low bit first. -/
def bitsAt (data : Array UInt8) : Nat → Nat → Nat
  | 0, _ => 0
  | count + 1, position => bitAt data position + 2 * bitsAt data count (position + 1)

/-- Are so many bits there from a position on? -/
def hasBits (data : Array UInt8) (count position : Nat) : Bool := position + count ≤ 8 * data.size

/-- The number in the next bits, with the position after them. -/
def bits (data : Array UInt8) (count position : Nat) : Except Stop (Nat × Nat) :=
  if hasBits data count position then .ok (bitsAt data count position, position + count)
  else .error .cutOff

/-- A prefix code: how many words there are of each length from 1 on, and the
symbols in the order of their words. -/
structure PrefixCode where
  /-- The number of words of each length. -/
  counts : List Nat
  /-- The symbols, shorter words first. -/
  symbols : Array Nat

/-- The longest word of a code. -/
def longestWord : Nat := 15

/-- The code in which symbols have words of the given lengths; zero means that
a symbol has none. -/
def PrefixCode.ofLengths (lengths : List Nat) : PrefixCode :=
  let indexed := lengths.zipIdx
  let sizes := (List.range longestWord).map (· + 1)
  { counts := sizes.map fun size => lengths.count size
    symbols := (sizes.flatMap fun size =>
      (indexed.filter (·.1 == size)).map (·.2)).toArray }

/-- The share of all words of greatest length that begin with words of the
code, counted in such words. -/
def PrefixCode.share (code : PrefixCode) : Nat :=
  code.counts.foldl (fun share count => 2 * share + count) 0

/-- Does every sequence of bits begin with a word of the code, and with one only? -/
def PrefixCode.isComplete (code : PrefixCode) : Bool := code.share = Nat.pow 2 longestWord

/-- Finds one word bit by bit, as its symbol and its length. `word` is the word
so far, `first` the first word of the present length, `passed` the number of
shorter words, and `size` the bits taken already. -/
def findWord (data : Array UInt8) (symbols : Array Nat) :
    List Nat → Nat → Nat → Nat → Nat → Nat → Option (Nat × Nat)
  | [], _, _, _, _, _ => none
  | count :: counts, position, word, first, passed, size =>
    let word := word + bitAt data position
    if word < first + count then
      (symbols[passed + (word - first)]?).map fun symbol => (symbol, size + 1)
    else
      findWord data symbols counts (position + 1) (2 * word) (2 * (first + count))
        (passed + count) (size + 1)

/-- The symbol of the word at a position, with the length of the word. Bits that
are missing count as zero; no word may be there if the code is not complete. -/
def PrefixCode.find (code : PrefixCode) (data : Array UInt8) (position : Nat) :
    Option (Nat × Nat) :=
  findWord data code.symbols code.counts position 0 0 0 0

/-- The base and the number of further bits of each length symbol. -/
def lengthTable : Array (Nat × Nat) := #[
  (3, 0), (4, 0), (5, 0), (6, 0), (7, 0), (8, 0), (9, 0), (10, 0), (11, 1), (13, 1), (15, 1),
  (17, 1), (19, 2), (23, 2), (27, 2), (31, 2), (35, 3), (43, 3), (51, 3), (59, 3), (67, 4),
  (83, 4), (99, 4), (115, 4), (131, 5), (163, 5), (195, 5), (227, 5), (258, 0)]

/-- The base and the number of further bits of each distance symbol. -/
def distanceTable : Array (Nat × Nat) := #[
  (1, 0), (2, 0), (3, 0), (4, 0), (5, 1), (7, 1), (9, 2), (13, 2), (17, 3), (25, 3), (33, 4),
  (49, 4), (65, 5), (97, 5), (129, 6), (193, 6), (257, 7), (385, 7), (513, 8), (769, 8),
  (1025, 9), (1537, 9), (2049, 10), (3073, 10), (4097, 11), (6145, 11), (8193, 12), (12289, 12),
  (16385, 13), (24577, 13)]

/-- Appends a copy of earlier output, byte by byte, so that a copy may run on
into itself. -/
def copyBack (distance : Nat) : Nat → Array UInt8 → Array UInt8
  | 0, output => output
  | count + 1, output =>
    copyBack distance count (output.push (output.getD (output.size - distance) 0))

/-- Two literals are taken in one go if their words have so many bits together. -/
def pairLimit : Nat := 12

/-- The literal that is taken together with the one before it, whose word of
`size` bits ends at a position, with the bits of both. -/
def secondLiteral? (data : Array UInt8) (literals : PrefixCode) (size position : Nat) :
    Option (Nat × Nat) :=
  match literals.find data position with
  | some (symbol, further) =>
    if symbol < 256 ∧ size + further ≤ pairLimit then some (symbol, size + further) else none
  | none => none

/-- How far a copy reaches back and how many bytes it has, for a length symbol
whose word ends at a position, with the position after the copy's bits. The bits
of a distance without a word are missing rather than wrong while fewer than ten
are there. -/
def copyAt (data : Array UInt8) (distances : PrefixCode) (symbol position : Nat) :
    Except Stop (Nat × Nat × Nat) :=
  match lengthTable[symbol - 257]? with
  | none => .error .damaged
  | some (shortest, further) =>
    let length := shortest + bitsAt data further position
    let position := position + further
    match distances.find data position with
    | some (symbol, size) =>
      match distanceTable[symbol]? with
      | none => .error (if hasBits data 10 position then .damaged else .cutOff)
      | some (nearest, further) =>
        let distance := nearest + bitsAt data further (position + size)
        if hasBits data (size + further) position then
          .ok (distance, length, position + size + further)
        else .error .cutOff
    | none => .error (if hasBits data 10 position then .damaged else .cutOff)

/-- Reads symbols up to the end of the block and returns the position after it;
`steps` bounds their number. -/
def readSymbols (data : Array UInt8) (literals distances : PrefixCode) :
    Nat → Nat → Array UInt8 → Array UInt8 × Except Stop Nat
  | 0, _, output => (output, .error .cutOff)
  | steps + 1, position, output =>
    match literals.find data position with
    | none => (output, .error .damaged)
    | some (symbol, size) =>
      if symbol < 256 then
        match secondLiteral? data literals size (position + size) with
        | some (second, both) =>
          if hasBits data both position then
            readSymbols data literals distances steps (position + both)
              ((output.push symbol.toUInt8).push second.toUInt8)
          else (output, .error .cutOff)
        | none =>
          if hasBits data size position then
            readSymbols data literals distances steps (position + size)
              (output.push symbol.toUInt8)
          else (output, .error .cutOff)
      else if symbol = 256 then
        (output, if hasBits data size position then .ok (position + size) else .error .cutOff)
      else
        match copyAt data distances symbol (position + size) with
        | .error stop => (output, .error stop)
        | .ok (distance, length, position) =>
          if output.size < distance then (output, .error .damaged)
          else
            readSymbols data literals distances steps position (copyBack distance length output)

/-- The fixed code of literals and lengths. -/
def fixedLiterals : PrefixCode :=
  .ofLengths (List.replicate 144 8 ++ List.replicate 112 9 ++ List.replicate 24 7 ++
    List.replicate 8 8)

/-- The fixed code of distances. -/
def fixedDistances : PrefixCode := .ofLengths (List.replicate 32 5)

/-- The order in which the lengths of the code of code lengths are given. -/
def lengthOrder : List Nat := [16, 17, 18, 0, 8, 7, 9, 6, 10, 5, 11, 4, 12, 3, 13, 2, 14, 1, 15]

/-- Reads so many numbers of three bits. -/
def readTriples (data : Array UInt8) : Nat → Nat → Except Stop (List Nat × Nat)
  | 0, position => .ok ([], position)
  | count + 1, position => do
    let (value, position) ← bits data 3 position
    let (values, position) ← readTriples data count position
    .ok (value :: values, position)

/-- Reads code lengths until there are `wanted` of them; repetitions are given
by symbols from 16 on. The lengths so far stand in reverse. -/
def readLengths (data : Array UInt8) (code : PrefixCode) (wanted : Nat) :
    Nat → Nat → List Nat → Except Stop (List Nat × Nat)
  | 0, _, _ => .error .damaged
  | steps + 1, position, lengths =>
    if lengths.length = wanted then .ok (lengths.reverse, position)
    else if wanted < lengths.length then .error .damaged
    else
      match code.find data position with
      | none => .error .damaged
      | some (symbol, size) =>
        if !hasBits data 7 position then .error .cutOff
        else if symbol < 16 then
          readLengths data code wanted steps (position + size) (symbol :: lengths)
        else
          let rule : Nat × Nat × Option Nat :=
            if symbol = 16 then (2, 3, lengths.head?)
            else if symbol = 17 then (3, 3, some 0)
            else (7, 11, some 0)
          match bits data rule.1 (position + size), rule.2.2 with
          | .error stop, _ => .error stop
          | .ok _, none => .error .damaged
          | .ok (more, position), some repeated =>
            readLengths data code wanted steps position
              (List.replicate (rule.2.1 + more) repeated ++ lengths)

/-- Is a code of distances usable? It is complete, or has no word, or only one
of one bit. -/
def usableDistances (code : PrefixCode) : Bool :=
  code.isComplete || code.symbols.isEmpty ||
    (code.symbols.size = 1 && code.counts.head? == some 1)

/-- Reads the two codes of a block that brings its own. -/
def readCodes (data : Array UInt8) (position : Nat) :
    Except Stop (PrefixCode × PrefixCode × Nat) := do
  let (counts, position) ← bits data 14 position
  let literalCount := counts % 32 + 257
  let distanceCount := counts / 32 % 32 + 1
  if 286 < literalCount ∨ 30 < distanceCount then throw .damaged
  let (given, position) ← readTriples data (counts / 1024 + 4) position
  let lengths := (List.range 19).map fun symbol => ((lengthOrder.zip given).lookup symbol).getD 0
  let code := PrefixCode.ofLengths lengths
  if !code.isComplete then throw .damaged
  let wanted := literalCount + distanceCount
  let (all, position) ← readLengths data code wanted (wanted + 1) position []
  let literals := PrefixCode.ofLengths (all.take literalCount)
  let distances := PrefixCode.ofLengths (all.drop literalCount)
  if literals.isComplete && usableDistances distances && all.getD 256 0 != 0 then
    .ok (literals, distances, position)
  else throw .damaged

/-- Appends stored bytes from a byte position on, as far as they are there. -/
def copyStored (data : Array UInt8) : Nat → Nat → Array UInt8 → Array UInt8
  | 0, _, output => output
  | count + 1, at', output =>
    match data[at']? with
    | some byte => copyStored data count (at' + 1) (output.push byte)
    | none => output

/-- Reads a stored block, which begins at a whole byte with its length and the
complement of its length. -/
def readStored (data : Array UInt8) (position : Nat) (output : Array UInt8) :
    Array UInt8 × Except Stop Nat :=
  let position := (position + 7) / 8 * 8
  match bits data 32 position with
  | .error stop => (output, .error stop)
  | .ok (sizes, position) =>
    let length := sizes % 65536
    if length + sizes / 65536 ≠ 0xFFFF then (output, .error .damaged)
    else
      (copyStored data length (position / 8) output,
        if hasBits data (8 * length) position then .ok (position + 8 * length)
        else .error .cutOff)

/-- Reads the block of a kind whose head ends at a position. -/
def readBlock (data : Array UInt8) (symbolSteps kind position : Nat) (output : Array UInt8) :
    Array UInt8 × Except Stop Nat :=
  match kind with
  | 0 => readStored data position output
  | 1 => readSymbols data fixedLiterals fixedDistances symbolSteps position output
  | 2 =>
    match readCodes data position with
    | .ok (literals, distances, position) =>
      readSymbols data literals distances symbolSteps position output
    | .error stop => (output, .error stop)
  | _ => (output, .error .damaged)

/-- Reads blocks up to the last one and returns the position after it; `steps`
bounds their number and `symbolSteps` that of the symbols of each. -/
def readBlocks (data : Array UInt8) (symbolSteps : Nat) :
    Nat → Nat → Array UInt8 → Array UInt8 × Except Stop Nat
  | 0, _, output => (output, .error .cutOff)
  | steps + 1, position, output =>
    match bits data 3 position with
    | .error stop => (output, .error stop)
    | .ok (head, position) =>
      match readBlock data symbolSteps (head / 2) position output with
      | (output, .ok position) =>
        if head % 2 = 1 then (output, .ok position)
        else readBlocks data symbolSteps steps position output
      | stopped => stopped

/-- The bytes that a zlib stream holds as far as it goes; `none` if it is
damaged. -/
def inflate (stream : List UInt8) : Option (List UInt8) :=
  let data := stream.toArray
  match stream with
  | method :: flags :: _ =>
    if method.toNat % 16 = 8 ∧ method.toNat / 16 ≤ 7 ∧
        (256 * method.toNat + flags.toNat) % 31 = 0 ∧ flags.toNat / 32 % 2 = 0 then
      let steps := 8 * data.size + 1
      match readBlocks data steps steps 16 #[] with
      | (_, .error .damaged) => none
      | (output, _) => some output.toList
    else none
  | _ => some []

end TrayIndicator.Icon.Inflate
