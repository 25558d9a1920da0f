import Bundler.Script.Lexeme

set_option autoImplicit false

/-! # Code and literals of scripts

A script is cut into spans: comments and strings on one side, all the code between them on the
other. Nothing is lost, no span is empty, and no two spans of code stand next to each other. -/

namespace Bundler.Script

/-- A part of a script. -/
inductive Span
  | code (text : List Char)
  /-- A comment or a string. -/
  | literal (text : List Char)
deriving DecidableEq, Repr

/-- The characters of a span. -/
def Span.text : Span → List Char
  | code text | literal text => text

/-- The span of some code, last character first, unless there is none. -/
def codeSpan (code : List Char) : List Span :=
  if code.isEmpty then [] else [.code code.reverse]

/-- The spans of the rest of a text after some code, last character first. -/
def spansAfter (code : List Char) : List Char → List Span
  | [] => codeSpan code
  | c :: rest =>
    match _h : literal? (c :: rest) with
    | some after =>
      let found := (c :: rest).take ((c :: rest).length - after.length)
      codeSpan code ++ .literal found :: spansAfter [] after
    | none => spansAfter (c :: code) rest
termination_by text => text.length
decreasing_by
  · exact length_literal?_lt _h
  · simp

/-- The spans of a script, in order. -/
def spans (source : List Char) : List Span := spansAfter [] source

end Bundler.Script
