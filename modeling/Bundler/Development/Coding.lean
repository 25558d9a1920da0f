import Bundler.Text.Words

set_option autoImplicit false

/-! # Accepted codings

A client lists the codings that it accepts, each with a weight from 0 to 1 in steps of a thousandth.
A coding without a weight has weight 1, and one with weight 0 is not accepted. Codings that are not
known, and those with a weight that is none, are passed over. -/

namespace Bundler

/-- How a body is sent; a later one is preferred over an earlier one of the same weight. -/
inductive Coding
  | identity
  | gzip
deriving DecidableEq, Repr

namespace Coding

/-- The coding of a name, in any letter case. -/
def ofName? (name : List Char) : Option Coding :=
  match String.ofList (name.map Char.toLower) with
  | "gzip" | "x-gzip" => some .gzip
  | "identity" => some .identity
  | _ => none

/-! ## Weights -/

/-- The thousandths that decimal places after the first ones stand for. -/
def placesOf? : Nat → List Char → Option Nat
  | _, [] => some 0
  | 0, _ => none
  | unit, c :: rest =>
    if '0' ≤ c ∧ c ≤ '9' then
      (placesOf? (unit / 10) rest).map fun n => unit * (c.toNat - '0'.toNat) + n
    else none

/-- The thousandths of a weight between 0 and 1. -/
def thousandths? : List Char → Option Nat
  | ['0'] => some 0
  | ['1'] => some 1000
  | '0' :: '.' :: places => placesOf? 100 places
  | '1' :: '.' :: places => (placesOf? 100 places).bind fun n => if n = 0 then some 1000 else none
  | _ => none

/-- The weight that follows the name of a coding. -/
def weight? (text : List Char) : Option Nat :=
  match text with
  | q :: '=' :: value => if q = 'q' ∨ q = 'Q' then thousandths? value else none
  | _ => none

/-! ## Lists of codings -/

/-- A coding and its weight. -/
def weighted? (item : List Char) : Option (Coding × Nat) := do
  let name := item.takeWhile (· ≠ ';')
  let coding ← ofName? (Text.trim name)
  match item.drop name.length with
  | [] => return (coding, 1000)
  | _ :: parameter => return (coding, ← weight? (Text.trim parameter))

/-- The texts between commas. -/
def splitCommas (text : List Char) : List (List Char) :=
  text.foldr
    (fun c items =>
      if c = ',' then [] :: items
      else match items with
        | first :: rest => (c :: first) :: rest
        | [] => [[c]])
    [[]]

/-- Whether a character may stand in the list that a client sends. -/
def isVisible (c : Char) : Bool := c == '\t' || (' ' ≤ c && c ≤ '~')

/-- The accepted codings of a list. -/
def accepted (header : String) : List (Coding × Nat) :=
  if header.toList.all isVisible then
    ((splitCommas header.toList).filterMap weighted?).filter fun c => 0 < c.2
  else []

/-- The coding of greatest weight in a list; nothing is coded if the client sends no list. -/
def preferred (header : Option String) : Coding :=
  let codings := (header.map accepted).getD []
  let greatest (coding : Coding) : Nat :=
    ((codings.filter (·.1 = coding)).map (·.2)).foldl max 0
  if 0 < greatest gzip && greatest identity ≤ greatest gzip then gzip else identity

end Coding

end Bundler
