import Bundler.Gzip.Bits

set_option autoImplicit false

/-! # Prefix codes

A prefix code is given by the length of each symbol's code alone: codes of one length are
consecutive numbers in the order of their symbols, and shorter codes come first. Reading a symbol
takes one bit after the other until the number read is one of the codes of that length. -/

namespace Bundler.Gzip

/-- The longest code of the format. -/
def maxCodeLength : Nat := 15

/-- A prefix code: how many codes there are of each length, and the symbols in the order of their
    codes. -/
structure PrefixCode where
  counts : List Nat
  symbols : Array Nat

namespace PrefixCode

/-- The prefix code of the given code lengths; a symbol of length zero has no code. -/
def ofLengths (lengths : List Nat) : PrefixCode :=
  let ofLength (n : Nat) : List Nat :=
    (lengths.zipIdx.filter (·.1 == n)).map (·.2)
  let groups := (List.range maxCodeLength).map fun n => ofLength (n + 1)
  ⟨groups.map List.length, groups.flatten.toArray⟩

/-- A symbol read with the codes of the lengths in `counts`, when `code` was read so far, the first
    code of the next length is `first` and `passed` symbols have shorter codes. -/
def readFrom (symbols : Array Nat) (code first passed : Nat) :
    List Nat → Bits → Option (Nat × Bits)
  | count :: counts, b :: rest =>
    let code := 2 * code + if b then 1 else 0
    if code < first + count then
      if first ≤ code then (symbols[passed + (code - first)]?).map (·, rest) else none
    else readFrom symbols code (2 * (first + count)) (passed + count) counts rest
  | _, _ => none

/-- The symbol at the start of some bits, with the bits after it. -/
def read? (c : PrefixCode) (bits : Bits) : Option (Nat × Bits) :=
  readFrom c.symbols 0 0 0 c.counts bits

end PrefixCode

/-! ## Lengths and distances -/

/-- The shortest length of each length symbol and the number of bits that are added to it. -/
def lengthTable : List (Nat × Nat) :=
  [(3, 0), (4, 0), (5, 0), (6, 0), (7, 0), (8, 0), (9, 0), (10, 0), (11, 1), (13, 1), (15, 1),
    (17, 1), (19, 2), (23, 2), (27, 2), (31, 2), (35, 3), (43, 3), (51, 3), (59, 3), (67, 4),
    (83, 4), (99, 4), (115, 4), (131, 5), (163, 5), (195, 5), (227, 5), (258, 0)]

/-- The shortest distance of each distance symbol and the number of bits that are added to it. -/
def distanceTable : List (Nat × Nat) :=
  [(1, 0), (2, 0), (3, 0), (4, 0), (5, 1), (7, 1), (9, 2), (13, 2), (17, 3), (25, 3), (33, 4),
    (49, 4), (65, 5), (97, 5), (129, 6), (193, 6), (257, 7), (385, 7), (513, 8), (769, 8),
    (1025, 9), (1537, 9), (2049, 10), (3073, 10), (4097, 11), (6145, 11), (8193, 12), (12289, 12),
    (16385, 13), (24577, 13)]

/-- The last symbol of a table whose shortest value is not above a value, with that value and the
    number of added bits. -/
def symbolOf (table : List (Nat × Nat)) (value : Nat) : Nat × Nat × Nat :=
  (table.zipIdx.filter (·.1.1 ≤ value)).foldl (fun _ e => (e.2, e.1.1, e.1.2)) (0, 0, 0)

/-! ## The fixed code -/

/-- The code lengths of the fixed code of literals and lengths. -/
def fixedLengths : List Nat :=
  List.replicate 144 8 ++ List.replicate 112 9 ++ List.replicate 24 7 ++ List.replicate 8 8

/-- The fixed code of literals and lengths. -/
def fixedCode : PrefixCode := .ofLengths fixedLengths

/-- The fixed code of distances. -/
def fixedDistances : PrefixCode := .ofLengths (List.replicate 30 5)

/-- The bits of a symbol in the fixed code. -/
def fixedBits (symbol : Nat) : Bits :=
  if symbol < 144 then codeBits 8 (0x30 + symbol)
  else if symbol < 256 then codeBits 9 (0x190 + (symbol - 144))
  else if symbol < 280 then codeBits 7 (symbol - 256)
  else codeBits 8 (0xC0 + (symbol - 280))

/-- The symbol that ends a block. -/
def endSymbol : Nat := 256

/-- The symbol of the shortest length. -/
def firstLengthSymbol : Nat := 257

end Bundler.Gzip
