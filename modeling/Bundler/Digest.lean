import Bundler.Bytes.Hex

set_option autoImplicit false

/-! # SHA-256 digests

Modules, chunks and assets are named by a digest of their bytes. A digest is written as 64 lower-case
hexadecimal digits; a file name carries the first 20 of them. A digest of several parts puts a zero
byte after each part, so that parts cannot run into each other unnoticed. -/

namespace Bundler.Digest

/-! ## The compression function -/

/-- The eight words of the running state. -/
structure State where
  a : UInt32
  b : UInt32
  c : UInt32
  d : UInt32
  e : UInt32
  f : UInt32
  g : UInt32
  h : UInt32

/-- The state before the first block. -/
def State.initial : State :=
  ⟨0x6A09E667, 0xBB67AE85, 0x3C6EF372, 0xA54FF53A, 0x510E527F, 0x9B05688C, 0x1F83D9AB, 0x5BE0CD19⟩

/-- The round constants. -/
def constants : Array UInt32 := #[
  0x428A2F98, 0x71374491, 0xB5C0FBCF, 0xE9B5DBA5, 0x3956C25B, 0x59F111F1, 0x923F82A4, 0xAB1C5ED5,
  0xD807AA98, 0x12835B01, 0x243185BE, 0x550C7DC3, 0x72BE5D74, 0x80DEB1FE, 0x9BDC06A7, 0xC19BF174,
  0xE49B69C1, 0xEFBE4786, 0x0FC19DC6, 0x240CA1CC, 0x2DE92C6F, 0x4A7484AA, 0x5CB0A9DC, 0x76F988DA,
  0x983E5152, 0xA831C66D, 0xB00327C8, 0xBF597FC7, 0xC6E00BF3, 0xD5A79147, 0x06CA6351, 0x14292967,
  0x27B70A85, 0x2E1B2138, 0x4D2C6DFC, 0x53380D13, 0x650A7354, 0x766A0ABB, 0x81C2C92E, 0x92722C85,
  0xA2BFE8A1, 0xA81A664B, 0xC24B8B70, 0xC76C51A3, 0xD192E819, 0xD6990624, 0xF40E3585, 0x106AA070,
  0x19A4C116, 0x1E376C08, 0x2748774C, 0x34B0BCB5, 0x391C0CB3, 0x4ED8AA4A, 0x5B9CCA4F, 0x682E6FF3,
  0x748F82EE, 0x78A5636F, 0x84C87814, 0x8CC70208, 0x90BEFFFA, 0xA4506CEB, 0xBEF9A3F7, 0xC67178F2]

/-- Rotation of a word to the right. -/
def rotateRight (x : UInt32) (n : UInt32) : UInt32 := (x >>> n) ||| (x <<< (32 - n))

/-- The next word of the message schedule. -/
def scheduleWord (words : Array UInt32) : UInt32 :=
  let back (i : Nat) := words.getD (words.size - i) 0
  let s0 := let x := back 15; rotateRight x 7 ^^^ rotateRight x 18 ^^^ (x >>> 3)
  let s1 := let x := back 2; rotateRight x 17 ^^^ rotateRight x 19 ^^^ (x >>> 10)
  back 16 + s0 + back 7 + s1

/-- The 64 words of the message schedule of a block of 16 words. -/
def schedule (block : Array UInt32) : Array UInt32 :=
  (List.range 48).foldl (fun words _ => words.push (scheduleWord words)) block

/-- One round with its constant and its word of the schedule. -/
def State.round (s : State) (constant word : UInt32) : State :=
  let s1 := rotateRight s.e 6 ^^^ rotateRight s.e 11 ^^^ rotateRight s.e 25
  let choice := (s.e &&& s.f) ^^^ (~~~s.e &&& s.g)
  let t1 := s.h + s1 + choice + constant + word
  let s0 := rotateRight s.a 2 ^^^ rotateRight s.a 13 ^^^ rotateRight s.a 22
  let majority := (s.a &&& s.b) ^^^ (s.a &&& s.c) ^^^ (s.b &&& s.c)
  ⟨t1 + (s0 + majority), s.a, s.b, s.c, s.d + t1, s.e, s.f, s.g⟩

/-- The state after one block. -/
def State.absorb (s : State) (block : Array UInt32) : State :=
  let words := schedule block
  let r := (List.range 64).foldl
    (fun r i => r.round (constants.getD i 0) (words.getD i 0)) s
  ⟨s.a + r.a, s.b + r.b, s.c + r.c, s.d + r.d, s.e + r.e, s.f + r.f, s.g + r.g, s.h + r.h⟩

/-! ## Messages -/

/-- The byte of a padded message at a position: the message, one bit, zeros, and the bit length of
    the message in the last eight bytes. -/
def paddedByte (message : ByteArray) (length i : Nat) : UInt8 :=
  if h : i < message.size then message[i]
  else if i = message.size then 0x80
  else if length ≤ i + 8 then (8 * message.size / Nat.pow 256 (length - 1 - i)).toUInt8
  else 0

/-- The block of a padded message that starts at a position. -/
def blockAt (message : ByteArray) (length start : Nat) : Array UInt32 :=
  (Array.range 16).map fun i =>
    (List.range 4).foldl
      (fun word k => word * 256 + (paddedByte message length (start + 4 * i + k)).toUInt32) 0

/-- The bytes of a word, highest first. -/
def wordBytes (w : UInt32) : List UInt8 :=
  [(w >>> 24).toUInt8, (w >>> 16).toUInt8, (w >>> 8).toUInt8, w.toUInt8]

/-- The 32 bytes of the digest of a message. -/
def bytes (message : ByteArray) : List UInt8 :=
  let blocks := (message.size + 9 + 63) / 64
  let s := (List.range blocks).foldl
    (fun (s : State) i => s.absorb (blockAt message (64 * blocks) (64 * i))) State.initial
  [s.a, s.b, s.c, s.d, s.e, s.f, s.g, s.h].flatMap wordBytes

/-- The digest of a content. -/
def ofContent (content : ByteArray) : String := Bytes.hex (bytes content)

/-- The parts with a zero byte after each. -/
def separated (parts : List ByteArray) : ByteArray :=
  parts.foldl (fun all part => (all ++ part).push 0) .empty

/-- The digest of several parts. -/
def ofParts (parts : List ByteArray) : String := ofContent (separated parts)

/-- How many digits of a digest a file name carries. -/
def fileDigits : Nat := 20

/-- The digest that a file name carries. -/
def ofFile (content : ByteArray) : String := .ofList ((ofContent content).toList.take fileDigits)

end Bundler.Digest
