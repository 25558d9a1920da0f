import Bundler.Gzip.Deflate

set_option autoImplicit false

/-! # Compressed files

A compressed file is a header, the compressed form of the content, a checksum of the content and
its length. -/

namespace Bundler.Gzip

/-! ## Checksums -/

/-- A checksum after one more bit. -/
def crcBit (crc : UInt32) : UInt32 :=
  if crc &&& 1 = 1 then (crc >>> 1) ^^^ 0xEDB88320 else crc >>> 1

/-- A checksum after eight more bits. -/
def crcStep (crc : UInt32) : UInt32 :=
  crcBit (crcBit (crcBit (crcBit (crcBit (crcBit (crcBit (crcBit crc)))))))

/-- The checksum of some bytes. -/
def crc32 (bytes : ByteArray) : UInt32 :=
  (bytes.data.foldl (fun crc b => crcStep (crc ^^^ b.toUInt32)) 0xFFFFFFFF) ^^^ 0xFFFFFFFF

/-! ## Files -/

/-- A number in four bytes, lowest first. -/
def fourBytes (n : Nat) : List UInt8 :=
  [n.toUInt8, (n / 256).toUInt8, (n / 65536).toUInt8, (n / 16777216).toUInt8]

/-- The header of a compressed file without a name or time. -/
def header : List UInt8 := [0x1F, 0x8B, 8, 0, 0, 0, 0, 0, 2, 255]

/-- The compressed file of a content. -/
def compress (content : ByteArray) : ByteArray :=
  ⟨(header ++ deflate content ++ fourBytes (crc32 content).toNat ++
    fourBytes content.size).toArray⟩

/-- Whether some bytes begin as a compressed file does. -/
def isCompressed (bytes : ByteArray) : Bool :=
  bytes[0]? == some 0x1F && bytes[1]? == some 0x8B

/-- The bytes after those up to a zero byte. -/
def skipText (bytes : List UInt8) : List UInt8 := (bytes.dropWhile (· ≠ 0)).drop 1

/-- The bytes after the optional parts of a header, of which `flags` tells which are there. -/
def skipOptions (flags : Nat) (bytes : List UInt8) : List UInt8 :=
  let bytes := if flags / 4 % 2 = 1 then
      match bytes with
      | low :: high :: rest => rest.drop (low.toNat + 256 * high.toNat)
      | _ => []
    else bytes
  let bytes := if flags / 8 % 2 = 1 then skipText bytes else bytes
  let bytes := if flags / 16 % 2 = 1 then skipText bytes else bytes
  if flags / 2 % 2 = 1 then bytes.drop 2 else bytes

/-- The content of a compressed file, if its checksum and length are right. -/
def decompress? (file : ByteArray) : Option ByteArray :=
  match file.data.toList with
  | 0x1F :: 0x8B :: 8 :: flags :: _ :: _ :: _ :: _ :: _ :: _ :: rest => do
    let (content, trailer) ← inflate? (skipOptions flags.toNat rest)
    guard (trailer.take 8 = fourBytes (crc32 content).toNat ++ fourBytes content.size)
    some content
  | _ => none

end Bundler.Gzip
