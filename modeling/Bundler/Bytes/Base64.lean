set_option autoImplicit false

/-! # Base64

Three bytes are written as four characters of six bits each. The last group of a text is filled up
with `=`. -/

namespace Bundler.Bytes.Base64

/-- The character of a number below 64. -/
def digit (n : Nat) : Char :=
  if n < 26 then Char.ofNat ('A'.toNat + n)
  else if n < 52 then Char.ofNat ('a'.toNat + (n - 26))
  else if n < 62 then Char.ofNat ('0'.toNat + (n - 52))
  else if n = 62 then '+'
  else '/'

/-- The characters of a group of one to three bytes. -/
def encodeGroup (a : UInt8) (b c : Option UInt8) : List Char :=
  let n := a.toNat * 65536 + (b.getD 0).toNat * 256 + (c.getD 0).toNat
  [digit (n / 262144), digit (n / 4096 % 64),
    if b.isSome then digit (n / 64 % 64) else '=',
    if c.isSome then digit (n % 64) else '=']

/-- The groups of a list of bytes, last group first, before the groups in `done`. -/
def encodeAfter (done : List (List Char)) : List UInt8 → List (List Char)
  | [] => done
  | [a] => encodeGroup a none none :: done
  | [a, b] => encodeGroup a (some b) none :: done
  | a :: b :: c :: rest => encodeAfter (encodeGroup a (some b) (some c) :: done) rest

/-- The written form of some bytes. -/
def encode (bytes : ByteArray) : String :=
  .ofList (encodeAfter [] bytes.data.toList).reverse.flatten

end Bundler.Bytes.Base64
