/-
Module: Abacus.Decimal.Layout
Purpose: The text of a floating-point number, given the decimal that stands for
  it. A layout says which numbers are written without an exponent and how the
  marks read; `FloatClass.text` writes a number under it.
Main exports: Decimal.Layout, Decimal.text, FloatClass.text
-/
import Abacus.Decimal.Shortest

namespace Abacus

/-- The choices that a text for floating-point numbers is made of. A number
    whose first digit counts a power of ten between `leastPositional` and
    `greatestPositional` is written without an exponent. -/
structure Decimal.Layout where
  leastPositional : Int
  greatestPositional : Int
  point : Char
  exponentMark : Char
  minus : Char
  infinity : String
  notANumber : String
deriving DecidableEq, Repr, Inhabited

namespace Decimal

/-- The digits without the zeros at their end, but never without the first
    digit. -/
def significantDigits (d : Decimal) : List Char :=
  match d.digits with
  | [] => []
  | first :: rest => first :: (rest.reverse.dropWhile (· == '0')).reverse

/-- Positional notation: at least one digit on either side of the point. -/
def positional (layout : Layout) (digits : List Char) (leading : Int) : List Char :=
  if leading < 0 then
    '0' :: layout.point :: List.replicate (-leading - 1).toNat '0' ++ digits
  else
    let whole := leading.toNat + 1
    let fraction := digits.drop whole
    digits.take whole ++ List.replicate (whole - digits.length) '0' ++
      layout.point :: (if fraction.isEmpty then ['0'] else fraction)

/-- Scientific notation: one digit, the others after a point if there are any,
    then the exponent, which has a sign only when it is negative. -/
def scientific (layout : Layout) (digits : List Char) (leading : Int) : List Char :=
  let mantissa :=
    match digits with
    | first :: next :: rest => first :: layout.point :: next :: rest
    | short => short
  mantissa ++ layout.exponentMark :: (toString leading).toList

/-- The text of a positive decimal. -/
def text (layout : Layout) (d : Decimal) : List Char :=
  let leading := d.leadingExponent
  if layout.leastPositional ≤ leading ∧ leading ≤ layout.greatestPositional then
    positional layout d.significantDigits leading
  else
    scientific layout d.significantDigits leading

end Decimal

namespace FloatClass

/-- The text of a number: the shortest decimal that reads back, zero with its
    sign, or the name of what has no digits. -/
def text (layout : Decimal.Layout) : FloatClass → String
  | .notANumber => layout.notANumber
  | .infinite negative => signed negative layout.infinity.toList
  | .zero negative => signed negative (Decimal.positional layout ['0'] 0)
  | .finite negative magnitude => signed negative (magnitude.shortest.text layout)
where
  /-- The minus sign stands before everything else. -/
  signed (negative : Bool) (text : List Char) : String :=
    String.ofList (if negative then layout.minus :: text else text)

end FloatClass

end Abacus
