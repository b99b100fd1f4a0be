/-
Module: Abacus.Decimal.Shortest
Purpose: The shortest decimal that stands for a binary floating-point number. A
  positive finite number is `significand * 2 ^ exponent`; the reals that round
  to it form an interval around it, and among the decimals of that interval with
  the fewest digits the nearest one is chosen. All comparisons are between
  natural numbers, so nothing is rounded on the way.
Main exports: Decimal, Dyadic, Dyadic.shortest, FloatClass, FloatClass.ofBits
-/

namespace Abacus

/-- The decimal number `coefficient * 10 ^ exponent`. -/
structure Decimal where
  coefficient : Nat
  exponent : Int
deriving DecidableEq, Repr, Inhabited

namespace Decimal

/-- The decimal digits of the coefficient, the most significant one first. -/
def digits (d : Decimal) : List Char :=
  Nat.toDigits 10 d.coefficient

/-- The power of ten that the first digit counts. -/
def leadingExponent (d : Decimal) : Int :=
  d.exponent + d.digits.length - 1

end Decimal

/-- A positive number `significand * 2 ^ exponent` of a binary format, together
    with whether its lower neighbour stands at half the distance of its upper
    one, as it does below a power of two. -/
structure Dyadic where
  significand : Nat
  exponent : Int
  narrowBelow : Bool
deriving DecidableEq, Repr, Inhabited

/-- A ratio of two natural numbers, which is how the numbers compared here are
    written. -/
structure Ratio where
  numerator : Nat
  denominator : Nat
deriving DecidableEq, Repr, Inhabited

namespace Ratio

/-- The natural number `n` times a power of `base` with a positive or negative
    exponent. -/
def ofPower (n base : Nat) (exponent : Int) : Ratio :=
  { numerator := n * base.pow exponent.toNat
    denominator := base.pow (-exponent).toNat }

/-- Less than. -/
def lt (x y : Ratio) : Bool :=
  decide (x.numerator * y.denominator < y.numerator * x.denominator)

/-- Less than or equal. -/
def le (x y : Ratio) : Bool :=
  decide (x.numerator * y.denominator ≤ y.numerator * x.denominator)

/-- The quotient. -/
def div (x y : Ratio) : Ratio :=
  { numerator := x.numerator * y.denominator
    denominator := x.denominator * y.numerator }

/-- The greatest natural number that is not greater. -/
def floor (x : Ratio) : Nat :=
  x.numerator / x.denominator

/-- The power of ten counted by the first digit of a positive number. A number
    below one is measured by its reciprocal; this is exact for the numbers met
    here, since no power of ten below one is a number over a power of two. -/
def leadingExponent (x : Ratio) : Int :=
  if x.denominator ≤ x.numerator then
    (Nat.toDigits 10 (x.numerator / x.denominator)).length - 1
  else
    -(Nat.toDigits 10 (x.denominator / x.numerator)).length

end Ratio

namespace Dyadic

/-- The number itself. All bounds are in quarters of the distance to the upper
    neighbour. -/
def value (d : Dyadic) : Ratio :=
  .ofPower (4 * d.significand) 2 (d.exponent - 2)

/-- Half way to the lower neighbour. -/
def lower (d : Dyadic) : Ratio :=
  .ofPower (4 * d.significand - (if d.narrowBelow then 1 else 2)) 2 (d.exponent - 2)

/-- Half way to the upper neighbour. -/
def upper (d : Dyadic) : Ratio :=
  .ofPower (4 * d.significand + 2) 2 (d.exponent - 2)

/-- Whether a number rounds to `d`. A number half way between two neighbours
    goes to the one with the even significand, so the ends of the interval
    belong to it exactly when the significand is even. -/
def admits (d : Dyadic) (x : Ratio) : Bool :=
  if d.significand % 2 = 0 then d.lower.le x && x.le d.upper
  else d.lower.lt x && x.lt d.upper

/-- On the grid of decimals with step `10 ^ exponent`, the neighbour of `d` that
    rounds to `d`, if there is one. Of two the nearer is taken, and the upper
    one of two at the same distance. -/
def onGrid? (d : Dyadic) (exponent : Int) : Option Decimal :=
  let steps := d.value.div (.ofPower 1 10 exponent)
  let below := steps.floor
  let admitted (n : Nat) : Bool := d.admits (.ofPower n 10 exponent)
  let upperIsNearer := (Ratio.mk (2 * below + 1) 2).le steps
  match admitted below, admitted (below + 1) with
  | true, true =>
      some { coefficient := if upperIsNearer then below + 1 else below, exponent }
  | true, false => some { coefficient := below, exponent }
  | false, true => some { coefficient := below + 1, exponent }
  | false, false => none

/-- The shortest decimal that rounds to `d`: grids of one, two and more digits
    are tried in turn. Seventeen digits are always enough for a double; past
    them the coarse neighbour below is kept. -/
def shortest (d : Dyadic) : Decimal :=
  let leading := d.value.leadingExponent
  match (List.range 17).findSome? fun (n : Nat) => d.onGrid? (leading - n) with
  | some decimal => decimal
  | none =>
      { coefficient := (d.value.div (.ofPower 1 10 (leading - 16))).floor
        exponent := leading - 16 }

end Dyadic

/-- What the sixty-four bits of a double stand for. -/
inductive FloatClass where
  | notANumber
  | infinite (negative : Bool)
  | zero (negative : Bool)
  | finite (negative : Bool) (magnitude : Dyadic)
deriving DecidableEq, Repr, Inhabited

namespace FloatClass

/-- How many fractions there are, which take fifty-two bits. -/
def fractionCount : Nat := 4503599627370496

/-- How many exponents there are, which take eleven bits. -/
def exponentCount : Nat := 2048

/-- Takes the bits apart into a sign, an exponent and a fraction. The least
    exponent marks zero and the numbers without a hidden leading one, the
    greatest one infinity and what is not a number. -/
def ofBits (bits : UInt64) : FloatClass :=
  let negative := bits.toNat / fractionCount / exponentCount == 1
  let biased : Nat := bits.toNat / fractionCount % exponentCount
  let fraction : Nat := bits.toNat % fractionCount
  if biased = exponentCount - 1 then
    if fraction = 0 then .infinite negative else .notANumber
  else if biased = 0 then
    if fraction = 0 then .zero negative
    else .finite negative
      { significand := fraction, exponent := -1074, narrowBelow := false }
  else
    .finite negative
      { significand := fractionCount + fraction
        exponent := (biased : Int) - 1075
        narrowBelow := fraction == 0 && biased != 1 }

end FloatClass

end Abacus
