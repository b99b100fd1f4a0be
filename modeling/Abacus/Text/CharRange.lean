/-
Module: Abacus.Text.CharRange
Purpose: Sets of characters given by ranges of code points, the form in which
  the Unicode properties of this library are tabulated. The tables list
  characters beyond ASCII only; each property says on its own which ASCII
  characters it has, so that nothing about ASCII text depends on a table.
Main exports: Text.CharRange, Text.CharRange.contains, Text.inRanges
-/

namespace Abacus.Text

/-- The code points from `first` to `last`, both included. -/
structure CharRange where
  first : Nat
  last : Nat
deriving DecidableEq, Repr, Inhabited

/-- Whether the code point `n` lies in the range. -/
def CharRange.contains (range : CharRange) (n : Nat) : Bool :=
  decide (range.first ≤ n) && decide (n ≤ range.last)

/-- Whether one of the ranges contains the character. -/
def inRanges (ranges : List CharRange) (c : Char) : Bool :=
  ranges.any (·.contains c.toNat)

/-- Whether the character is one of the 128 of ASCII. -/
def isAscii (c : Char) : Bool :=
  decide (c.toNat < 0x80)

/-- A table in order: each range is well formed and stops before the next one
    starts. -/
def Ordered : List CharRange → Bool
  | [] => true
  | [range] => decide (range.first ≤ range.last)
  | range :: next :: ranges =>
      decide (range.first ≤ range.last) && decide (range.last < next.first) &&
        Ordered (next :: ranges)

end Abacus.Text
