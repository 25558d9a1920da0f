import Bundler.Pattern.CharSet

set_option autoImplicit false

/-! # Regular expressions

A regular expression moves marks over a text. A mark stands before each character and one at the
end; an expression turns the marks of the places where a match may start into those of the places
where it may end. Whether some part of a text matches is then one question: start with every mark
set and see whether one is left. Which of several matches comes first does not matter here. -/

namespace Bundler.Pattern

/-! ## Expressions -/

/-- Conditions on the two characters around a place. -/
inductive Assertion
  | textStart
  | textEnd
  | lineStart (crlf : Bool)
  | lineEnd (crlf : Bool)
  | wordBoundary (unicode : Bool)
  | noWordBoundary (unicode : Bool)
  | wordStart (unicode : Bool)
  | wordEnd (unicode : Bool)
  /-- No word character before. -/
  | wordStartHalf (unicode : Bool)
  /-- No word character after. -/
  | wordEndHalf (unicode : Bool)

/-- Regular expressions. -/
inductive Regex
  | empty
  | set (chars : CharSet)
  | assert (condition : Assertion)
  | seq (a b : Regex)
  | alt (a b : Regex)
  /-- At least `least` times `a` in a row, and at most `most` times, if given. -/
  | repeated (a : Regex) (least : Nat) (most : Option Nat)

/-! ## Assertions -/

/-- Whether a character is there and is a word character. -/
def isWordAt (unicode : Bool) (c : Option Char) : Bool :=
  c.any fun c => if unicode then Unicode.isWord c else CharSet.asciiWord.contains c

/-- Whether a condition holds between two characters. -/
def Assertion.holds (before after : Option Char) : Assertion → Bool
  | textStart => before.isNone
  | textEnd => after.isNone
  | lineStart false => before.isNone || before == some '\n'
  | lineStart true =>
    before.isNone || before == some '\n' || (before == some '\r' && after != some '\n')
  | lineEnd false => after.isNone || after == some '\n'
  | lineEnd true =>
    after.isNone || after == some '\r' || (after == some '\n' && before != some '\r')
  | wordBoundary u => isWordAt u before != isWordAt u after
  | noWordBoundary u => isWordAt u before == isWordAt u after
  | wordStart u => !isWordAt u before && isWordAt u after
  | wordEnd u => isWordAt u before && !isWordAt u after
  | wordStartHalf u => !isWordAt u before
  | wordEndHalf u => !isWordAt u after

/-! ## Marks -/

/-- One mark for each place of a text: before each character and at the end. -/
abbrev Marks := List Bool

/-- The marks of the places where a condition holds. -/
def Assertion.marks (condition : Assertion) (text : List Char) : Marks :=
  List.zipWith (fun before after => condition.holds before after)
    (none :: text.map some) (text.map some ++ [none])

/-- Marks set in one or the other. -/
def either (a b : Marks) : Marks := List.zipWith (· || ·) a b

/-- Marks after `n` steps; fewer when a step changes nothing. -/
def stepExactly (step : Marks → Marks) : Nat → Marks → Marks
  | 0, marks => marks
  | n + 1, marks =>
    let next := step marks
    if next == marks then marks else stepExactly step n next

/-- Marks after at most `n` steps. -/
def stepUpTo (step : Marks → Marks) : Nat → Marks → Marks
  | 0, marks => marks
  | n + 1, marks =>
    let next := either marks (step marks)
    if next == marks then marks else stepUpTo step n next

namespace Regex

/-- The places where a match may end that starts at a marked place. A repetition is followed for no
    more steps than the text has places, after which the marks do not change any more. -/
def advance (text : List Char) : Regex → Marks → Marks
  | empty, marks => marks
  | set chars, marks =>
    false :: List.zipWith (fun marked c => marked && chars.contains c) marks text
  | assert condition, marks => List.zipWith (· && ·) marks (condition.marks text)
  | seq a b, marks => b.advance text (a.advance text marks)
  | alt a b, marks => either (a.advance text marks) (b.advance text marks)
  | repeated a least most, marks =>
    let places := text.length + 2
    let more := match most with
      | some most => min (most - least) places
      | none => places
    stepUpTo (a.advance text) more (stepExactly (a.advance text) (min least places) marks)

/-- Whether some part of a text matches. -/
def isMatch (r : Regex) (text : String) : Bool :=
  let chars := text.toList
  (r.advance chars (List.replicate (chars.length + 1) true)).any id

/-- The most characters that a match can have; nothing if there is no bound. -/
def longest : Regex → Option Nat
  | empty | assert _ => some 0
  | set _ => some 1
  | seq a b => do return (← a.longest) + (← b.longest)
  | alt a b => do return max (← a.longest) (← b.longest)
  | repeated a _ most => do
    let one ← a.longest
    if one = 0 then some 0 else return one * (← most)

/-- The bytes that the states of an expression take when every repetition is written out. -/
def cost : Regex → Nat
  | empty | assert _ => 32
  | set chars => 32 * chars.runs.max 1
  | seq a b => a.cost + b.cost
  | alt a b => a.cost + b.cost + 32
  | repeated a least most =>
    let copies := match most with
      | some most => most
      | none => max least 1
    32 + a.cost * if a.longest == some 0 then min copies 1 else copies

end Regex

end Bundler.Pattern
