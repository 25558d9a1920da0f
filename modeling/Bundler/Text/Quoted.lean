import Bundler.Bytes.Hex

set_option autoImplicit false

/-! # Quoted texts

The text of a string in JSON: between double quotes, with a backslash before a double quote and
before a backslash, and with an escape for each control character. All other characters stand for
themselves. -/

namespace Bundler.Text

/-- The characters that stand for one character between the quotes. -/
def escapeChar (c : Char) : List Char :=
  if c = '"' then ['\\', '"']
  else if c = '\\' then ['\\', '\\']
  else if c = '\n' then ['\\', 'n']
  else if c = '\r' then ['\\', 'r']
  else if c = '\t' then ['\\', 't']
  else if c = '\x08' then ['\\', 'b']
  else if c = '\x0C' then ['\\', 'f']
  else if c.toNat < 0x20 then
    ['\\', 'u', '0', '0', Bytes.hexDigit (c.toNat / 16), Bytes.hexDigit (c.toNat % 16)]
  else [c]

/-- The quoted form of a text. -/
def quoteChars (text : List Char) : List Char :=
  '"' :: (text.flatMap escapeChar ++ ['"'])

/-- The quoted form of a text. -/
def quote (text : String) : String := .ofList (quoteChars text.toList)

end Bundler.Text
