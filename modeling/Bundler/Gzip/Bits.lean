set_option autoImplicit false

/-! # Bits of bytes

A compressed stream is a list of bits, packed into bytes from the lowest bit on. Numbers are written
lowest bit first, prefix codes highest bit first. -/

namespace Bundler.Gzip

/-- A stream of bits. -/
abbrev Bits := List Bool

/-- The lowest `n` bits of a number, lowest first. -/
def numberBits : Nat → Nat → Bits
  | 0, _ => []
  | n + 1, value => (value % 2 == 1) :: numberBits n (value / 2)

/-- The number that some bits write, lowest first. -/
def bitsNumber : Bits → Nat
  | [] => 0
  | b :: rest => (if b then 1 else 0) + 2 * bitsNumber rest

/-- The lowest `n` bits of a prefix code, highest first. -/
def codeBits (n code : Nat) : Bits := (numberBits n code).reverse

/-- The bits of some bytes. -/
def bitsOfBytes (bytes : List UInt8) : Bits := bytes.flatMap fun b => numberBits 8 b.toNat

/-- The bytes of some bits after those in `done`; the last byte is filled up with zeros. -/
def packAfter (done : Array UInt8) : Bits → Array UInt8
  | [] => done
  | a :: b :: c :: d :: e :: f :: g :: h :: rest =>
    packAfter (done.push (bitsNumber [a, b, c, d, e, f, g, h]).toUInt8) rest
  | rest => done.push (bitsNumber rest).toUInt8

/-- The bytes of some bits. -/
def bytesOfBits (bits : Bits) : List UInt8 := (packAfter #[] bits).toList

/-- The number in the first `n` bits, with the bits after it. -/
def takeNumber? : Nat → Bits → Option (Nat × Bits)
  | 0, bits => some (0, bits)
  | _ + 1, [] => none
  | n + 1, b :: rest =>
    (takeNumber? n rest).map fun (high, rest) => ((if b then 1 else 0) + 2 * high, rest)

end Bundler.Gzip
