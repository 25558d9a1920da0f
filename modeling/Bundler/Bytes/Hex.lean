set_option autoImplicit false

/-! # Hexadecimal text of bytes -/

namespace Bundler.Bytes

/-- The lower-case hexadecimal digit of a number below 16. -/
def hexDigit (n : Nat) : Char :=
  if n < 10 then Char.ofNat ('0'.toNat + n) else Char.ofNat ('a'.toNat + (n - 10))

/-- The two hexadecimal digits of a byte, high half first. -/
def hexByte (b : UInt8) : List Char := [hexDigit (b.toNat / 16), hexDigit (b.toNat % 16)]

/-- The hexadecimal text of some bytes. -/
def hex (bytes : List UInt8) : String := .ofList (bytes.flatMap hexByte)

end Bundler.Bytes
