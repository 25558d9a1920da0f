import Bundler.Unicode.CharClass

set_option autoImplicit false

/-! # Numbers in JSON

A number has an optional minus sign, digits without a needless zero in front, and optionally a
fraction and an exponent. It is refused if it is too large for a double: its leading digits are
kept while they fit 64 bits, the digits after them only count as powers of ten, and the product of
the nearest doubles of both must not round to infinity. -/

namespace Bundler.Json

/-! ## Range -/

/-- The nearest number with 53 significant bits; of two equally near ones, the even one. -/
def nearestDouble (n : Nat) : Nat :=
  let bits := n.log2 + 1
  if bits ≤ 53 then n
  else
    let unit := Nat.pow 2 (bits - 53)
    let kept := n / unit
    let rest := n % unit
    if unit < 2 * rest || (unit = 2 * rest && kept % 2 = 1) then (kept + 1) * unit
    else kept * unit

/-- The least number that rounds to infinity. -/
def infinityBound : Nat := Nat.pow 2 1024 - Nat.pow 2 970

/-- The largest power of ten below infinity. -/
def greatestPower : Nat := 308

/-- Whether `leading * 10 ^ power` rounds to a finite double. -/
def isFinite (leading : Nat) (power : Int) : Bool :=
  leading == 0 || power < 0 ||
    (power ≤ greatestPower &&
      nearestDouble leading * nearestDouble (Nat.pow 10 power.toNat) < infinityBound)

/-- A number with more digits, as long as it fits 64 bits, and the digits that are left. -/
def extend (leading : Nat) : List Char → Nat × List Char
  | [] => (leading, [])
  | c :: rest =>
    let longer := leading * 10 + (c.toNat - '0'.toNat)
    if longer < UInt64.size then extend longer rest else (leading, c :: rest)

/-- Whether a number of the given digits, fraction digits and exponent is in range. -/
def isInRange (digits fraction : List Char) (exponent : Int) : Bool :=
  let (whole, beyond) := extend 0 digits
  let (leading, dropped) := extend whole fraction
  isFinite leading (exponent + beyond.length - (fraction.length - dropped.length))

/-! ## Reading -/

/-- The leading digits of a text, and the rest. -/
def digits (text : List Char) : List Char × List Char :=
  (text.takeWhile Unicode.isAsciiDigit, text.dropWhile Unicode.isAsciiDigit)

/-- The digits of the integer part. -/
def wholeDigits? (text : List Char) : Option (List Char × List Char) :=
  match digits text with
  | ([], _) => none
  | ('0' :: _ :: _, _) => none
  | found => some found

/-- The digits of the fraction, none if there is no fraction. -/
def fractionDigits? : List Char → Option (List Char × List Char)
  | '.' :: text =>
    match digits text with
    | ([], _) => none
    | found => some found
  | text => some ([], text)

/-- The value of a run of digits. -/
def digitsValue (run : List Char) : Nat :=
  run.foldl (fun n c => n * 10 + (c.toNat - '0'.toNat)) 0

/-- An exponent after its mark. -/
def signedDigits? (text : List Char) : Option (Int × List Char) :=
  let (sign, text) : Int × List Char := match text with
    | '+' :: rest => (1, rest)
    | '-' :: rest => (-1, rest)
    | _ => (1, text)
  match digits text with
  | ([], _) => none
  | (run, rest) => some (sign * digitsValue run, rest)

/-- The exponent, zero if there is none. -/
def exponent? : List Char → Option (Int × List Char)
  | 'e' :: text => signedDigits? text
  | 'E' :: text => signedDigits? text
  | text => some (0, text)

/-- What follows the number at the start of a text. -/
def afterNumber? (text : List Char) : Option (List Char) := do
  let unsigned := match text with
    | '-' :: rest => rest
    | _ => text
  let (whole, rest) ← wholeDigits? unsigned
  let (fraction, rest) ← fractionDigits? rest
  let (exponent, rest) ← exponent? rest
  if isInRange whole fraction exponent then some rest else none

end Bundler.Json
