import Bundler.Pattern.Reader

set_option autoImplicit false

/-! # Patterns

A pattern is a regular expression together with the text that it was written as. -/

namespace Bundler

/-- A regular expression and its written form. -/
structure Pattern where
  source : String
  regex : Pattern.Regex

namespace Pattern

/-- The pattern of a text, if it is one. -/
def ofSource? (source : String) : Option Pattern := (read? source).map (⟨source, ·⟩)

/-- Whether some part of a text matches. -/
def isMatch (p : Pattern) (text : String) : Bool := p.regex.isMatch text

end Pattern

end Bundler
