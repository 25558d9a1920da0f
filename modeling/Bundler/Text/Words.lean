import Bundler.Unicode.CharClass

set_option autoImplicit false

/-! # Trimming and splitting at white space -/

namespace Bundler.Text

/-- The text without the white space at its start. -/
def trimStart (text : List Char) : List Char := text.dropWhile Unicode.isSpace

/-- The text without the white space at its end. -/
def trimEnd (text : List Char) : List Char := (trimStart text.reverse).reverse

/-- The text without the white space around it. -/
def trim (text : List Char) : List Char := trimEnd (trimStart text)

/-- The words of a text whose current word holds the characters of `word`, last one first. -/
def wordsAfter (word : List Char) : List Char → List (List Char)
  | [] => if word.isEmpty then [] else [word.reverse]
  | c :: rest =>
    if Unicode.isSpace c then
      if word.isEmpty then wordsAfter [] rest else word.reverse :: wordsAfter [] rest
    else wordsAfter (c :: word) rest

/-- The maximal runs of characters other than white space. -/
def words (text : String) : List String :=
  (wordsAfter [] text.toList).map String.ofList

end Bundler.Text
