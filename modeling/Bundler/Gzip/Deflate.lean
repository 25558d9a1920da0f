import Bundler.Gzip.PrefixCode
import Bundler.Gzip.Token

set_option autoImplicit false

/-! # Compressed blocks

Content is written as one block in the fixed code. Blocks are read in all three forms: bytes as they
are, the fixed code, and a code of the block's own. -/

namespace Bundler.Gzip

/-! ## Writing -/

/-- The bits of a token in the fixed code. -/
def Token.bits : Token → Bits
  | literal b => fixedBits b.toNat
  | copy length distance =>
    let (lengthSymbol, lengthBase, lengthExtra) := symbolOf lengthTable length
    let (distanceSymbol, distanceBase, distanceExtra) := symbolOf distanceTable distance
    fixedBits (firstLengthSymbol + lengthSymbol) ++ numberBits lengthExtra (length - lengthBase) ++
      codeBits 5 distanceSymbol ++ numberBits distanceExtra (distance - distanceBase)

/-- The compressed form of some bytes: one last block in the fixed code. -/
def deflate (bytes : ByteArray) : List UInt8 :=
  bytesOfBits ([true, true, false] ++ (tokens bytes).flatMap Token.bits ++ fixedBits endSymbol)

/-! ## Reading -/

/-- The value of a symbol of a table, with the bits after those that are added to it. Unfolding it
    where a block is read would count the symbol down to that of the shortest length. -/
@[irreducible]
def tableValue? (table : List (Nat × Nat)) (symbol : Nat) (bits : Bits) :
    Option (Nat × Bits) := do
  let (base, extra) ← table[symbol]?
  let (added, bits) ← takeNumber? extra bits
  some (base + added, bits)

/-- The bytes with those of a block in a given code, and the bits after it. -/
def readTokens (literals distances : PrefixCode) : Nat → ByteArray → Bits →
    Option (ByteArray × Bits)
  | 0, _, _ => none
  | fuel + 1, bytes, bits =>
    match literals.read? bits with
    | none => none
    | some (symbol, bits) =>
      if symbol < endSymbol then
        readTokens literals distances fuel (bytes.push symbol.toUInt8) bits
      else if symbol = endSymbol then some (bytes, bits)
      else
        match tableValue? lengthTable (symbol - firstLengthSymbol) bits with
        | none => none
        | some (length, bits) =>
          match (distances.read? bits).bind fun (d, bits) => tableValue? distanceTable d bits with
          | none => none
          | some (distance, bits) =>
            if distance ≤ bytes.size then
              readTokens literals distances fuel (copyBack distance length bytes) bits
            else none

/-- The order in which the code lengths of code lengths are written. -/
def lengthOrder : List Nat := [16, 17, 18, 0, 8, 7, 9, 6, 10, 5, 11, 4, 12, 3, 13, 2, 14, 1, 15]

/-- Code lengths written in a code of their own, with runs, after those in `done`, until there are
    `wanted` of them. -/
def readLengths (code : PrefixCode) (wanted : Nat) : Nat → Array Nat → Bits →
    Option (List Nat × Bits)
  | 0, _, _ => none
  | fuel + 1, done, bits =>
    if wanted ≤ done.size then
      if done.size = wanted then some (done.toList, bits) else none
    else
      match code.read? bits with
      | none => none
      | some (symbol, bits) =>
        let repeated (value least extra : Nat) :=
          match takeNumber? extra bits with
          | some (n, bits) =>
            readLengths code wanted fuel (done ++ Array.replicate (least + n) value) bits
          | none => none
        if symbol < 16 then readLengths code wanted fuel (done.push symbol) bits
        else if symbol = 16 then
          match done.back? with
          | some last => repeated last 3 2
          | none => none
        else if symbol = 17 then repeated 0 3 3
        else repeated 0 11 7

/-- The numbers in groups of three bits. -/
def takeTriples? : Nat → Bits → Option (List Nat × Bits)
  | 0, bits => some ([], bits)
  | n + 1, bits => do
    let (first, bits) ← takeNumber? 3 bits
    let (rest, bits) ← takeTriples? n bits
    some (first :: rest, bits)

/-- The codes that a block brings along. -/
def readCodes? (bits : Bits) : Option (PrefixCode × PrefixCode × Bits) := do
  let (literals, bits) ← takeNumber? 5 bits
  let (distances, bits) ← takeNumber? 5 bits
  let (lengths, bits) ← takeNumber? 4 bits
  let (triples, bits) ← takeTriples? (lengths + 4) bits
  let written := lengthOrder.zip triples
  let code := PrefixCode.ofLengths ((List.range 19).map fun i => (written.lookup i).getD 0)
  let wanted := literals + 257 + (distances + 1)
  let (all, bits) ← readLengths code wanted (wanted + 1) #[] bits
  some (.ofLengths (all.take (literals + 257)), .ofLengths (all.drop (literals + 257)), bits)

/-- The bytes with those of a block that holds them as they are. Such a block starts with the next
    whole byte. -/
def readStored? (bytes : ByteArray) (bits : Bits) : Option (ByteArray × Bits) := do
  let bits := bits.drop (bits.length % 8)
  let (length, bits) ← takeNumber? 16 bits
  let (check, bits) ← takeNumber? 16 bits
  guard (length + check = 0xFFFF ∧ 8 * length ≤ bits.length)
  some ((bytesOfBits (bits.take (8 * length))).foldl ByteArray.push bytes,
    bits.drop (8 * length))

/-- The bytes with those of the remaining blocks, and the bits after the last one. -/
def readBlocks : Nat → ByteArray → Bits → Option (ByteArray × Bits)
  | 0, _, _ => none
  | fuel + 1, bytes, bits => do
    let (last, bits) ← takeNumber? 1 bits
    let (form, bits) ← takeNumber? 2 bits
    let (bytes, bits) ← match form with
      | 0 => readStored? bytes bits
      | 1 => readTokens fixedCode fixedDistances (bits.length + 1) bytes bits
      | 2 => do
        let (literals, distances, bits) ← readCodes? bits
        readTokens literals distances (bits.length + 1) bytes bits
      | _ => none
    if last = 1 then some (bytes, bits) else readBlocks fuel bytes bits

/-- The bytes of a compressed form, with the bytes after it. -/
def inflate? (compressed : List UInt8) : Option (ByteArray × List UInt8) := do
  let bits := bitsOfBytes compressed
  let (bytes, rest) ← readBlocks (bits.length + 1) .empty bits
  some (bytes, compressed.drop (compressed.length - rest.length / 8))

end Bundler.Gzip
