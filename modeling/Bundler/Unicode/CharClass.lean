import Bundler.Unicode.Category
import Bundler.Unicode.Property

set_option autoImplicit false

/-! # Classes of characters

The classes of characters that the bundler tests for. Each answers ASCII directly and looks the
other characters up in the tables of the properties it is made of. -/

namespace Bundler.Unicode

/-- ASCII letters. -/
def isAsciiLetter (c : Char) : Bool :=
  ('a' ≤ c && c ≤ 'z') || ('A' ≤ c && c ≤ 'Z')

/-- ASCII digits. -/
def isAsciiDigit (c : Char) : Bool := '0' ≤ c && c ≤ '9'

/-- White space: blanks, line breaks and the other separators of lines and words. -/
def isSpace (c : Char) : Bool :=
  if c.toNat < 0x80 then c == ' ' || ('\t' ≤ c && c ≤ '\r')
  else Property.whiteSpace.contains c

/-- Letters and numbers of any kind. -/
def isAlphanumeric (c : Char) : Bool :=
  if c.toNat < 0x80 then isAsciiLetter c || isAsciiDigit c
  else Property.alphabetic.contains c || Category.decimalNumberTable.contains c ||
    Category.letterNumberTable.contains c || Category.otherNumberTable.contains c

/-- Letters of any kind. -/
def isAlphabetic (c : Char) : Bool :=
  if c.toNat < 0x80 then isAsciiLetter c else Property.alphabetic.contains c

/-- Decimal digits of any script. -/
def isDigit (c : Char) : Bool :=
  if c.toNat < 0x80 then isAsciiDigit c else Category.decimalNumberTable.contains c

/-- The sets whose union is the word characters: letters, marks, decimal digits, connectors and
    the two joiners. -/
def wordTables : List InversionList :=
  [Property.alphabetic, Category.nonspacingMarkTable, Category.spacingMarkTable,
    Category.enclosingMarkTable, Category.decimalNumberTable, Category.connectorPunctuationTable,
    .interval 0x200C 0x200D]

/-- Word characters. -/
def isWord (c : Char) : Bool :=
  if c.toNat < 0x80 then isAsciiLetter c || isAsciiDigit c || c == '_'
  else wordTables.any (·.contains c)

end Bundler.Unicode
