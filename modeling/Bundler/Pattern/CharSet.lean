import Bundler.Unicode.Case
import Bundler.Unicode.CharClass
import Bundler.Unicode.Script

set_option autoImplicit false

/-! # Sets of characters in patterns

The sets that brackets, escapes and names of properties stand for, with the operations of the
bracket notation on them. `CharSet.contains` is what a set means. -/

namespace Bundler.Pattern

/-- A set of characters. -/
inductive CharSet
  | none
  /-- The characters between two code points, both included. -/
  | interval (lo hi : Nat)
  | table (members : Unicode.InversionList)
  | union (a b : CharSet)
  | intersection (a b : CharSet)
  | difference (a b : CharSet)
  | symmetricDifference (a b : CharSet)
  | complement (a : CharSet)
  /-- All characters that differ from a member in letter case only; of ASCII letters only, if so
      marked. -/
  | folded (ascii : Bool) (a : CharSet)

namespace CharSet

/-- The ASCII characters that differ from `c` in letter case only. -/
def asciiOrbit (c : Char) : List Char :=
  if c.toNat < 0x80 then [c.toLower, c.toUpper] else [c]

/-- Membership of a character. -/
def contains : CharSet → Char → Bool
  | none, _ => false
  | interval lo hi, c => lo ≤ c.toNat && c.toNat ≤ hi
  | table members, c => members.contains c
  | union a b, c => a.contains c || b.contains c
  | intersection a b, c => a.contains c && b.contains c
  | difference a b, c => a.contains c && !b.contains c
  | symmetricDifference a b, c => a.contains c != b.contains c
  | complement a, c => !a.contains c
  | folded ascii a, c => (if ascii then asciiOrbit c else Unicode.caseOrbit c).any a.contains

/-- A bound on the number of runs of members. -/
def runs : CharSet → Nat
  | none => 0
  | interval _ _ => 1
  | table members => members.runs
  | union a b | intersection a b | difference a b | symmetricDifference a b => a.runs + b.runs
  | complement a => a.runs + 1
  | folded _ a => 2 * a.runs

/-- The set of one character. -/
def single (c : Char) : CharSet := interval c.toNat c.toNat

/-- The union of some sets. -/
def unions (sets : List CharSet) : CharSet := sets.foldr union none

/-- The set of the characters from `lo` to `hi`. -/
def between (lo hi : Char) : CharSet := interval lo.toNat hi.toNat

/-- Whether a set holds ASCII characters only, among the characters of one byte. -/
def isAscii (s : CharSet) : Bool :=
  !(List.range 0x80).any fun i => s.contains (Char.ofNat (0x80 + i))

/-! ## Classes of ASCII characters -/

/-- The ASCII letters. -/
def asciiLetters : CharSet := union (between 'a' 'z') (between 'A' 'Z')

/-- The ASCII digits. -/
def asciiDigits : CharSet := between '0' '9'

/-- The ASCII word characters. -/
def asciiWord : CharSet := unions [asciiLetters, asciiDigits, single '_']

/-- The ASCII white space. -/
def asciiSpace : CharSet := union (between '\t' '\r') (single ' ')

/-- The classes of ASCII characters that have a name. -/
def asciiClass? (name : String) : Option CharSet :=
  match name with
  | "alnum" => some (union asciiLetters asciiDigits)
  | "alpha" => some asciiLetters
  | "ascii" => some (interval 0 0x7F)
  | "blank" => some (union (single '\t') (single ' '))
  | "cntrl" => some (union (interval 0 0x1F) (interval 0x7F 0x7F))
  | "digit" => some asciiDigits
  | "graph" => some (between '!' '~')
  | "lower" => some (between 'a' 'z')
  | "print" => some (between ' ' '~')
  | "punct" =>
    some (unions [interval 0x21 0x2F, interval 0x3A 0x40, interval 0x5B 0x60, interval 0x7B 0x7E])
  | "space" => some asciiSpace
  | "upper" => some (between 'A' 'Z')
  | "word" => some asciiWord
  | "xdigit" => some (unions [asciiDigits, between 'a' 'f', between 'A' 'F'])
  | _ => Option.none

/-! ## Properties by name -/

/-- The spelling under which names of properties are compared: lower case, without blanks, hyphens,
    underscores and characters beyond ASCII, and without a leading `is`. -/
def looseName (name : String) : String :=
  let chars := name.toList
  let (marked, body) := match chars with
    | i :: s :: rest => if i.toLower = 'i' ∧ s.toLower = 's' then (true, rest) else (false, chars)
    | _ => (false, chars)
  let kept := (body.filter fun c => c ≠ ' ' ∧ c ≠ '_' ∧ c ≠ '-' ∧ c.toNat < 0x80).map Char.toLower
  if marked && kept == ['c'] then "isc" else .ofList kept

/-- The characters of some categories. -/
def ofCategories (categories : List Unicode.Category) : CharSet :=
  unions (categories.map (table ·.members))

/-- The characters that have a category. -/
def assigned : CharSet := union (ofCategories Unicode.Category.all) (interval 0xD800 0xDFFF)

/-- The characters of a general category or a group of them. -/
def category? (name : String) : Option CharSet :=
  open Unicode.Category in
  match name with
  | "any" => some (interval 0 0x10FFFF)
  | "assigned" => some assigned
  | "ascii" => some (interval 0 0x7F)
  | "l" | "letter" =>
    some (ofCategories
      [uppercaseLetter, lowercaseLetter, titlecaseLetter, modifierLetter, otherLetter])
  | "lc" | "casedletter" =>
    some (ofCategories [uppercaseLetter, lowercaseLetter, titlecaseLetter])
  | "lu" | "uppercaseletter" => some (ofCategories [uppercaseLetter])
  | "ll" | "lowercaseletter" => some (ofCategories [lowercaseLetter])
  | "lt" | "titlecaseletter" => some (ofCategories [titlecaseLetter])
  | "lm" | "modifierletter" => some (ofCategories [modifierLetter])
  | "lo" | "otherletter" => some (ofCategories [otherLetter])
  | "m" | "mark" | "combiningmark" =>
    some (ofCategories [nonspacingMark, spacingMark, enclosingMark])
  | "mn" | "nonspacingmark" => some (ofCategories [nonspacingMark])
  | "mc" | "spacingmark" => some (ofCategories [spacingMark])
  | "me" | "enclosingmark" => some (ofCategories [enclosingMark])
  | "n" | "number" => some (ofCategories [decimalNumber, letterNumber, otherNumber])
  | "nd" | "decimalnumber" | "digit" => some (ofCategories [decimalNumber])
  | "nl" | "letternumber" => some (ofCategories [letterNumber])
  | "no" | "othernumber" => some (ofCategories [otherNumber])
  | "p" | "punctuation" | "punct" =>
    some (ofCategories [connectorPunctuation, dashPunctuation, openPunctuation, closePunctuation,
      initialPunctuation, finalPunctuation, otherPunctuation])
  | "pc" | "connectorpunctuation" => some (ofCategories [connectorPunctuation])
  | "pd" | "dashpunctuation" => some (ofCategories [dashPunctuation])
  | "ps" | "openpunctuation" => some (ofCategories [openPunctuation])
  | "pe" | "closepunctuation" => some (ofCategories [closePunctuation])
  | "pi" | "initialpunctuation" => some (ofCategories [initialPunctuation])
  | "pf" | "finalpunctuation" => some (ofCategories [finalPunctuation])
  | "po" | "otherpunctuation" => some (ofCategories [otherPunctuation])
  | "s" | "symbol" =>
    some (ofCategories [mathSymbol, currencySymbol, modifierSymbol, otherSymbol])
  | "sm" | "mathsymbol" => some (ofCategories [mathSymbol])
  | "sc" | "currencysymbol" => some (ofCategories [currencySymbol])
  | "sk" | "modifiersymbol" => some (ofCategories [modifierSymbol])
  | "so" | "othersymbol" => some (ofCategories [otherSymbol])
  | "z" | "separator" =>
    some (ofCategories [spaceSeparator, lineSeparator, paragraphSeparator])
  | "zs" | "spaceseparator" => some (ofCategories [spaceSeparator])
  | "zl" | "lineseparator" => some (ofCategories [lineSeparator])
  | "zp" | "paragraphseparator" => some (ofCategories [paragraphSeparator])
  | "c" | "other" =>
    some (union (ofCategories [control, format, privateUse]) (complement assigned))
  | "cc" | "control" | "cntrl" => some (ofCategories [control])
  | "cf" | "format" => some (ofCategories [format])
  | "co" | "privateuse" => some (ofCategories [privateUse])
  | "cs" | "surrogate" => some none
  | "cn" | "unassigned" => some (complement assigned)
  | _ => Option.none

/-- The characters of a binary property. -/
def binaryProperty? (name : String) : Option CharSet :=
  open Unicode.Property in
  match name with
  | "alphabetic" | "alpha" => some (table alphabetic)
  | "lowercase" | "lower" => some (table lowercase)
  | "uppercase" | "upper" => some (table uppercase)
  | "whitespace" | "wspace" | "space" => some (table whiteSpace)
  | "cased" => some (table cased)
  | "caseignorable" | "ci" => some (table caseIgnorable)
  | "math" => some (table math)
  | "dash" => some (table dash)
  | "emoji" => some (table emoji)
  | "hexdigit" | "hex" => some (table hexDigit)
  | "asciihexdigit" | "ahex" => some (table asciiHexDigit)
  | "ideographic" | "ideo" => some (table ideographic)
  | "joincontrol" | "joinc" => some (interval 0x200C 0x200D)
  | _ => Option.none

/-- The characters of a script. -/
def script? (name : String) : Option CharSet :=
  (Unicode.Script.named? name).map (table ·.members)

/-- The characters of a property, a category or a script, whichever has the name first. -/
def property? (name : String) : Option CharSet :=
  let name := looseName name
  binaryProperty? name <|> category? name <|> script? name

/-- The characters with a given value of a property. -/
def propertyValue? (property value : String) : Option CharSet :=
  match looseName property with
  | "generalcategory" | "gc" => category? (looseName value)
  | "script" | "sc" | "scriptextensions" | "scx" => script? (looseName value)
  | _ => Option.none

/-! ## Classes of the escapes -/

/-- Digits. -/
def digits (unicode : Bool) : CharSet :=
  if unicode then table Unicode.Category.decimalNumberTable else asciiDigits

/-- White space. -/
def space (unicode : Bool) : CharSet :=
  if unicode then table Unicode.Property.whiteSpace else asciiSpace

/-- Word characters. -/
def word (unicode : Bool) : CharSet :=
  if unicode then unions (Unicode.wordTables.map table) else asciiWord

end CharSet

end Bundler.Pattern
