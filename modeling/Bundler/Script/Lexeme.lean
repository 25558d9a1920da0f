import Bundler.Unicode.CharClass

set_option autoImplicit false

/-! # Comments, strings and words of scripts

A script is not parsed, only cut into lexemes: comments, strings in any of the three quotes, words
and single characters. Each reader gives the text after the lexeme that it finds at the start. A
comment or string that has no end is none, so its first character stands for itself. -/

namespace Bundler.Script

/-- Characters of words: ASCII letters and digits, the underscore and the dollar sign. -/
def isWordChar (c : Char) : Bool :=
  Unicode.isAsciiLetter c || Unicode.isAsciiDigit c || c == '_' || c == '$'

/-- White space between the words of an import. -/
def isGap (c : Char) : Bool := c == ' ' || c == '\t' || c == '\r' || c == '\n'

/-! ## Comments -/

/-- The text at the end of the line. A carriage return that no line feed follows spoils the line. -/
def lineEnd? (text : List Char) : Option (List Char) :=
  match text.dropWhile (fun c => c ≠ '\r' ∧ c ≠ '\n') with
  | [] => some []
  | '\n' :: rest => some ('\n' :: rest)
  | '\r' :: '\n' :: rest => some ('\r' :: '\n' :: rest)
  | _ => none

/-- The text after the end mark of a block comment. -/
def blockEnd? : List Char → Option (List Char)
  | '*' :: '/' :: rest => some rest
  | _ :: rest => blockEnd? rest
  | [] => none

/-- The text after a comment. -/
def comment? : List Char → Option (List Char)
  | '/' :: '/' :: rest => lineEnd? rest
  | '/' :: '*' :: rest => blockEnd? rest
  | _ => none

/-! ## Strings -/

/-- The text after the closing quote, where a backslash takes the next character along. -/
def closing? (quote : Char) : List Char → Option (List Char)
  | [] => none
  | '\\' :: _ :: rest => closing? quote rest
  | '\\' :: [] => none
  | c :: rest => if c = quote then some rest else closing? quote rest

/-- The quotes of strings. -/
def isQuote (c : Char) : Bool := c == '"' || c == '\'' || c == '`'

/-- The text after a string. -/
def string? : List Char → Option (List Char)
  | [] => none
  | c :: rest => if isQuote c then closing? c rest else none

/-- The text after a comment or a string. -/
def literal? (text : List Char) : Option (List Char) := comment? text <|> string? text

/-! ## Lexemes use up text -/

theorem length_lineEnd?_le {text rest : List Char} (h : lineEnd? text = some rest) :
    rest.length ≤ text.length := by
  have hle := (List.dropWhile_sublist (l := text) (fun c => c ≠ '\r' ∧ c ≠ '\n')).length_le
  unfold lineEnd? at h
  split at h <;> simp only [Option.some.injEq, reduceCtorEq] at h <;> subst h <;> simp_all

theorem length_blockEnd?_lt {text rest : List Char} (h : blockEnd? text = some rest) :
    rest.length < text.length := by
  induction text using blockEnd?.induct with
  | case1 r =>
    simp only [blockEnd?, Option.some.injEq] at h
    subst h
    simp only [List.length_cons]
    omega
  | case2 c r hne ih =>
    have := ih (by simpa [blockEnd?, hne] using h)
    simp only [List.length_cons]
    omega
  | case3 => simp [blockEnd?] at h

theorem length_comment?_lt {text rest : List Char} (h : comment? text = some rest) :
    rest.length < text.length := by
  unfold comment? at h
  split at h
  · have := length_lineEnd?_le h
    simp only [List.length_cons]
    omega
  · have := length_blockEnd?_lt h
    simp only [List.length_cons]
    omega
  · simp at h

theorem length_closing?_lt {quote : Char} {text rest : List Char}
    (h : closing? quote text = some rest) : rest.length < text.length := by
  induction text using closing?.induct quote with
  | case1 => simp [closing?] at h
  | case2 c r ih =>
    have := ih (by simpa [closing?] using h)
    simp only [List.length_cons]
    omega
  | case3 => simp [closing?] at h
  | case4 r hne1 hne2 =>
    have hr : r = rest := by simpa [closing?, hne1, hne2] using h
    subst hr
    simp
  | case5 c r hne1 hne2 hc ih =>
    have := ih (by simpa [closing?, hne1, hne2, hc] using h)
    simp only [List.length_cons]
    omega

theorem length_string?_lt {text rest : List Char} (h : string? text = some rest) :
    rest.length < text.length := by
  unfold string? at h
  split at h
  · simp at h
  · split at h
    · have := length_closing?_lt h
      simp only [List.length_cons]
      omega
    · simp at h

theorem length_literal?_lt {text rest : List Char} (h : literal? text = some rest) :
    rest.length < text.length := by
  simp only [literal?, Option.orElse_eq_orElse, Option.orElse_eq_or, Option.or_eq_some_iff] at h
  rcases h with h | ⟨_, h⟩
  · exact length_comment?_lt h
  · exact length_string?_lt h

end Bundler.Script
