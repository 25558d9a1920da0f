set_option autoImplicit false

/-! # Sets of code points (inversion lists)

A property of characters holds on a few hundred runs of code points. An inversion list stores such
a set as the sorted points at which membership flips: a code point belongs to the set exactly when
an odd number of flips lie at or below it. Looking a character up is a binary search for that
number. -/

namespace Bundler.Unicode

/-- A set of code points, given by the sorted points at which membership flips. -/
structure InversionList where
  flips : Array Nat
deriving Inhabited

namespace InversionList

/-- The number of flips at or below `c`, when it is known to lie between `lo` and `hi`. -/
def rank (s : InversionList) (c lo hi : Nat) : Nat :=
  if lo < hi then
    let mid := (lo + hi) / 2
    if s.flips.getD mid 0 ≤ c then s.rank c (mid + 1) hi else s.rank c lo mid
  else lo
termination_by hi - lo

/-- Membership of a character. -/
def contains (s : InversionList) (c : Char) : Bool :=
  s.rank c.toNat 0 s.flips.size % 2 == 1

/-- The number of maximal runs of members. -/
def runs (s : InversionList) : Nat := (s.flips.size + 1) / 2

/-- The set of the code points from `lo` to `hi`, both included. -/
def interval (lo hi : Nat) : InversionList := ⟨#[lo, hi + 1]⟩

/-! ## Written form

Tables are written as hexadecimal flips between blanks. -/

/-- The value of an upper-case hexadecimal digit. -/
def hexValue? (c : Char) : Option Nat :=
  if '0' ≤ c ∧ c ≤ '9' then some (c.toNat - '0'.toNat)
  else if 'A' ≤ c ∧ c ≤ 'F' then some (c.toNat - 'A'.toNat + 10)
  else none

/-- One character of the written form: a digit extends the open flip, a blank closes it. -/
def readChar (state : Array Nat × Option Nat) (c : Char) : Array Nat × Option Nat :=
  match hexValue? c, state with
  | some d, (flips, some n) => (flips, some (16 * n + d))
  | some d, (flips, none) => (flips, some d)
  | none, (flips, some n) => (flips.push n, none)
  | none, (flips, none) => (flips, none)

/-- The set that a table writes. -/
def ofTable (table : String) : InversionList :=
  match table.foldl readChar (#[], none) with
  | (flips, some n) => ⟨flips.push n⟩
  | (flips, none) => ⟨flips⟩

end InversionList

end Bundler.Unicode
