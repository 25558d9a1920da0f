import Bundler.Json.Number
import Bundler.Json.Value

set_option autoImplicit false

/-! # Reading JSON

A JSON text is one value with blanks around it. Values lie inside each other at most `nestingLimit`
deep. Strings hold no control characters, and escapes of surrogates come in pairs. -/

namespace Bundler.Json

/-! ## Blanks -/

/-- Whether a character may stand between the parts of a value. -/
def isBlank (c : Char) : Bool := c == ' ' || c == '\n' || c == '\t' || c == '\r'

/-- A text without the blanks in front. -/
def skipBlanks (text : List Char) : List Char := text.dropWhile isBlank

/-! ## Strings -/

/-- The value of a hexadecimal digit. -/
def hexValue? (c : Char) : Option Nat :=
  if '0' ≤ c ∧ c ≤ '9' then some (c.toNat - '0'.toNat)
  else if 'a' ≤ c ∧ c ≤ 'f' then some (c.toNat - 'a'.toNat + 10)
  else if 'A' ≤ c ∧ c ≤ 'F' then some (c.toNat - 'A'.toNat + 10)
  else none

/-- The number of four hexadecimal digits. -/
def codeUnit? : List Char → Option (Nat × List Char)
  | a :: b :: c :: d :: rest => do
    let value := (((← hexValue? a) * 16 + (← hexValue? b)) * 16 + (← hexValue? c)) * 16 +
      (← hexValue? d)
    return (value, rest)
  | _ => none

/-- Whether a code unit is the first of a surrogate pair. -/
def isLeading (unit : Nat) : Bool := 0xD800 ≤ unit && unit < 0xDC00

/-- Whether a code unit is the second of a surrogate pair. -/
def isTrailing (unit : Nat) : Bool := 0xDC00 ≤ unit && unit < 0xE000

/-- The character of the code units after `\u`. -/
def escapedChar? (text : List Char) : Option (Char × List Char) := do
  let (unit, rest) ← codeUnit? text
  if isTrailing unit then none
  else if isLeading unit then
    match rest with
    | '\\' :: 'u' :: rest => do
      let (second, rest) ← codeUnit? rest
      if isTrailing second then
        return (.ofNat (0x10000 + (unit - 0xD800) * 0x400 + (second - 0xDC00)), rest)
      else none
    | _ => none
  else return (.ofNat unit, rest)

/-- The character of an escape after its backslash. -/
def escape? : List Char → Option (Char × List Char)
  | '"' :: rest => some ('"', rest)
  | '\\' :: rest => some ('\\', rest)
  | '/' :: rest => some ('/', rest)
  | 'b' :: rest => some ('\x08', rest)
  | 'f' :: rest => some ('\x0C', rest)
  | 'n' :: rest => some ('\n', rest)
  | 'r' :: rest => some ('\r', rest)
  | 't' :: rest => some ('\t', rest)
  | 'u' :: rest => escapedChar? rest
  | _ => none

/-- The characters of a string up to its closing quote, after those read before, which are
    reversed. Every step takes at least one of the given number of characters. -/
def stringFrom? : Nat → List Char → List Char → Option (String × List Char)
  | 0, _, _ => none
  | _ + 1, _, [] => none
  | n + 1, read, c :: rest =>
    if c = '"' then some (.ofList read.reverse, rest)
    else if c = '\\' then
      match escape? rest with
      | some (c, rest) => stringFrom? n (c :: read) rest
      | none => none
    else if c.toNat < 0x20 then none
    else stringFrom? n (c :: read) rest

/-- A string at the start of a text. -/
def string? : List Char → Option (String × List Char)
  | '"' :: rest => stringFrom? (rest.length + 1) [] rest
  | _ => none

/-! ## Lists -/

/-- Items between commas up to a closing character, after those read before, which are reversed.
    Every step takes at least one of the given number of characters. -/
def separatedFrom? {α : Type} (item? : List Char → Option (α × List Char)) (close : Char) :
    Nat → List α → List Char → Option (List α × List Char)
  | 0, _, _ => none
  | n + 1, read, text => do
    let (a, rest) ← item? text
    match skipBlanks rest with
    | ',' :: rest => separatedFrom? item? close n (a :: read) (skipBlanks rest)
    | c :: rest => if c = close then some ((a :: read).reverse, rest) else none
    | [] => none

/-- Items between commas up to a closing character; there may be none. -/
def separated? {α : Type} (item? : List Char → Option (α × List Char)) (close : Char)
    (text : List Char) : Option (List α × List Char) :=
  match skipBlanks text with
  | [] => none
  | c :: rest =>
    if c = close then some ([], rest)
    else separatedFrom? item? close (rest.length + 1) [] (c :: rest)

/-! ## Values -/

/-- A member of an object. -/
def member? (value? : List Char → Option (Value × List Char)) (text : List Char) :
    Option ((String × Value) × List Char) := do
  let (name, rest) ← string? text
  match skipBlanks rest with
  | ':' :: rest => do
    let (v, rest) ← value? (skipBlanks rest)
    return ((name, v), rest)
  | _ => none

/-- A value that holds no other values. -/
def scalar? : List Char → Option (Value × List Char)
  | 'n' :: 'u' :: 'l' :: 'l' :: rest => some (.null, rest)
  | 't' :: 'r' :: 'u' :: 'e' :: rest => some (.bool true, rest)
  | 'f' :: 'a' :: 'l' :: 's' :: 'e' :: rest => some (.bool false, rest)
  | '"' :: rest => (string? ('"' :: rest)).map fun (s, rest) => (.text s, rest)
  | text => (afterNumber? text).map fun rest => (.number, rest)

/-- A value at the start of a text, nested at most as deep as given. -/
def value? : Nat → List Char → Option (Value × List Char)
  | 0, text => scalar? text
  | depth + 1, '[' :: rest =>
    (separated? (value? depth) ']' rest).map fun (items, rest) => (.array items, rest)
  | depth + 1, '\x7b' :: rest =>
    (separated? (member? (value? depth)) '\x7d' rest).map fun (members, rest) =>
      (.object members, rest)
  | _ + 1, text => scalar? text

/-- How deep arrays and objects may lie inside each other. -/
def nestingLimit : Nat := 127

/-- The value of a JSON text. -/
def read? (text : String) : Option Value := do
  let (v, rest) ← value? nestingLimit (skipBlanks text.toList)
  if (skipBlanks rest).isEmpty then some v else none

end Bundler.Json
