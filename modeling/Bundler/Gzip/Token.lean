import Std.Data.HashMap

set_option autoImplicit false

/-! # Literals and copies

Compressed content is a list of tokens: bytes as they are, and copies of bytes that came before.
Tokens are found by looking up where the next three bytes stood last. A place that is looked up is
not trusted: the copy takes exactly the bytes that are the same there. -/

namespace Bundler.Gzip

/-- A byte, or some bytes copied from a distance back. -/
inductive Token
  | literal (byte : UInt8)
  | copy (length distance : Nat)
deriving DecidableEq, Repr

/-! ## Expanding -/

/-- The byte at a position, zero beyond the end. -/
def byteAt (bytes : ByteArray) (i : Nat) : UInt8 := if h : i < bytes.size then bytes[i] else 0

/-- Some bytes with `length` more, each the one `distance` back from its place. -/
def copyBack (distance : Nat) : Nat → ByteArray → ByteArray
  | 0, bytes => bytes
  | n + 1, bytes => copyBack distance n (bytes.push (byteAt bytes (bytes.size - distance)))

/-- Some bytes with those of a token. -/
def Token.expand (bytes : ByteArray) : Token → ByteArray
  | literal b => bytes.push b
  | copy length distance => copyBack distance length bytes

/-- The bytes of some tokens. -/
def expandAll (tokens : List Token) : ByteArray := tokens.foldl Token.expand .empty

/-! ## Finding tokens -/

/-- The longest copy of the format. -/
def maxCopy : Nat := 258

/-- The shortest copy of the format. -/
def minCopy : Nat := 3

/-- The farthest distance of the format. -/
def maxDistance : Nat := 32768

/-- How many bytes from `i` on are the same as those from `j` on, up to a limit. -/
def commonLength (bytes : ByteArray) (i j : Nat) : Nat → Nat
  | 0 => 0
  | n + 1 =>
    match bytes[i]?, bytes[j]? with
    | some a, some b => if a = b then 1 + commonLength bytes (i + 1) (j + 1) n else 0
    | _, _ => 0

/-- The next three bytes as one number. -/
def keyAt (bytes : ByteArray) (i : Nat) : Nat :=
  (byteAt bytes i).toNat * 65536 + (byteAt bytes (i + 1)).toNat * 256 +
    (byteAt bytes (i + 2)).toNat

/-- Where each run of three bytes stood last. -/
abbrev Places := Std.HashMap Nat Nat

/-- The places with those from `i` on, `n` of them. -/
def notePlaces (bytes : ByteArray) (places : Places) (i : Nat) : Nat → Places
  | 0 => places
  | n + 1 => notePlaces bytes (places.insert (keyAt bytes i) i) (i + 1) n

/-- The copy that starts at `i`, if it is worth one: its length and distance. -/
def copyAt? (bytes : ByteArray) (places : Places) (i : Nat) : Option (Nat × Nat) :=
  match places[keyAt bytes i]? with
  | some j =>
    if j < i ∧ i - j ≤ maxDistance then
      let length := commonLength bytes i j maxCopy
      if minCopy ≤ length then some (length, i - j) else none
    else none
  | none => none

/-- The tokens of the bytes from `i` on, after those in `done`. -/
def tokensFrom (bytes : ByteArray) (places : Places) (done : Array Token) (i : Nat) :
    Array Token :=
  if h : i < bytes.size then
    match copyAt? bytes places i with
    | some (length + 1, distance) =>
      tokensFrom bytes (notePlaces bytes places i (length + 1))
        (done.push (.copy (length + 1) distance)) (i + (length + 1))
    | _ =>
      tokensFrom bytes (places.insert (keyAt bytes i) i) (done.push (.literal bytes[i]))
        (i + 1)
  else done
termination_by bytes.size - i

/-- The tokens of some bytes. -/
def tokens (bytes : ByteArray) : List Token := (tokensFrom bytes {} #[] 0).toList

end Bundler.Gzip
