set_option autoImplicit false

/-! # Documents

A document is a template with one script tag for each script. The tags stand before the end of the
head, or else of the body, whichever letter case its tag has, or else at the end. -/

namespace Bundler.Document

/-- The document of a project without a template. -/
def default : String :=
  "<!DOCTYPE html>\n" ++
  "<html>\n" ++
  "  <head>\n" ++
  "    <meta charset=\"utf-8\" />\n" ++
  "    <meta name=\"viewport\" content=\"width=device-width, initial-scale=1\" />\n" ++
  "  </head>\n" ++
  "  <body>\n" ++
  "    <div id=\"root\"></div>\n" ++
  "  </body>\n" ++
  "</html>\n"

/-- The name under which the document is emitted. -/
def fileName : String := "index.html"

/-- The tag of a script. -/
def scriptTag (publicPath script : String) : String :=
  "<script defer src=\"" ++ publicPath ++ script ++ "\"></script>\n"

/-- Whether a text starts with a tag in any letter case. -/
def startsWithTag (tag text : List Char) : Bool :=
  tag.isPrefixOf ((text.take tag.length).map Char.toLower)

/-- The number of characters before the first place where a tag stands, `passed` of them before
    this text. -/
def tagPlace? (tag : List Char) (passed : Nat) : List Char → Option Nat
  | [] => none
  | c :: rest =>
    if startsWithTag tag (c :: rest) then some passed else tagPlace? tag (passed + 1) rest

/-- The number of characters before the place of the script tags. -/
def insertionPlace (template : List Char) : Nat :=
  ((tagPlace? "</head>".toList 0 template).or (tagPlace? "</body>".toList 0 template)).getD
    template.length

/-- A template, or the default document, with script tags. -/
def render (template : Option String) (publicPath : String) (scripts : List String) : String :=
  let text := (template.getD default).toList
  let place := insertionPlace text
  .ofList (text.take place) ++ String.join (scripts.map (scriptTag publicPath)) ++
    .ofList (text.drop place)

end Bundler.Document
