/-
Module: Abacus.Arithmetic
Purpose: The values that expressions compute with, and the five operators on
  them. An operation on two integers is exact and gives an integer whenever the
  result fits a signed word of 64 bits; where it does not fit, and wherever a
  double takes part, the result is a double. A quotient is always a double.
  `word?_eq_some_iff` says when an integer fits, `wordPower?_eq` that powers are
  exact however large the exponent, `Value.apply_eq_error` which operations have
  no result.
Main exports: Value, Value.text, Operator, ArithmeticFault, Value.apply
-/
import Abacus.Decimal.Layout

namespace Abacus

/-- An integer of 64 bits with a sign, or a double. -/
inductive Value where
  | int (value : Int64)
  | float (value : Float)
deriving DecidableEq, Repr, Inhabited

/-- The five operators that stand between two operands. -/
inductive Operator where
  | add
  | subtract
  | multiply
  | divide
  | power
deriving DecidableEq, Repr, Inhabited

/-- Why an operation has no result. Either is the fault of the right operand. -/
inductive ArithmeticFault where
  | divisionByZero
  | zeroToNegativePower
deriving DecidableEq, Repr, Inhabited

/-- The wording of an arithmetic fault. -/
def ArithmeticFault.message : ArithmeticFault → String
  | .divisionByZero => "cannot divide by zero"
  | .zeroToNegativePower => "cannot raise zero to a negative power"

/-!
### Words

An exact integer is turned into a word only if the word stands for that very
integer.
-/

/-- The word for an integer, if there is one. -/
def word? (n : Int) : Option Int64 :=
  if Int64.minValue.toInt ≤ n ∧ n ≤ Int64.maxValue.toInt then some (Int64.ofInt n)
  else none

/-- A word stands for exactly one integer, and every integer of its range has a
    word. -/
theorem word?_eq_some_iff {n : Int} {w : Int64} : word? n = some w ↔ w.toInt = n := by
  unfold word?
  constructor
  · intro found
    split at found
    case isTrue inRange =>
      rw [← Option.some.inj found]
      rw [Int64.toInt_minValue, Int64.toInt_maxValue] at inRange
      exact Int64.toInt_ofInt_of_le inRange.1 (by omega)
    case isFalse => cases found
  · rintro rfl
    rw [if_pos ⟨w.minValue_le_toInt, w.toInt_le⟩, Int64.ofInt_toInt]

/-- There is no word exactly for what lies outside the range. -/
theorem word?_eq_none_iff {n : Int} :
    word? n = none ↔ n < Int64.minValue.toInt ∨ Int64.maxValue.toInt < n := by
  unfold word?
  split
  case isTrue => simp only [reduceCtorEq, false_iff]; omega
  case isFalse => simp only [true_iff]; omega

/-- The word for a power. Powers of minus one, zero and one repeat with period
    two, and any other base outgrows a word before the exponent 64, so no huge
    number is ever written down. -/
def wordPower? (base : Int) (exponent : Nat) : Option Int64 :=
  if base.natAbs ≤ 1 then
    word? (base.pow (if exponent < 2 then exponent else 2 + exponent % 2))
  else if 64 ≤ exponent then
    none
  else
    word? (base.pow exponent)

/-- A base of magnitude two or more outgrows a word before the exponent 64. -/
theorem word?_pow_eq_none {base : Int} {exponent : Nat} (large : 2 ≤ base.natAbs)
    (high : 64 ≤ exponent) : word? (base.pow exponent) = none := by
  change word? (base ^ exponent) = none
  have grown : 2 ^ 64 ≤ (base ^ exponent).natAbs := by
    rw [Int.natAbs_pow]
    exact Nat.le_trans (Nat.pow_le_pow_right (by decide) high)
      (Nat.pow_le_pow_left large exponent)
  rw [word?_eq_none_iff, Int64.toInt_minValue, Int64.toInt_maxValue]
  omega

/-- Powers of minus one, zero and one depend on the parity of the exponent only,
    once it is positive. -/
theorem pow_eq_of_natAbs_le_one {base : Int} (small : base.natAbs ≤ 1) {exponent : Nat}
    (high : 2 ≤ exponent) : base.pow (2 + exponent % 2) = base.pow exponent := by
  change base ^ (2 + exponent % 2) = base ^ exponent
  have parts : exponent = 2 * (exponent / 2 - 1) + (2 + exponent % 2) := by omega
  have bases : base = -1 ∨ base = 0 ∨ base = 1 := by omega
  rcases bases with rfl | rfl | rfl
  · conv => rhs; rw [parts, Int.pow_add, Int.pow_mul]
    rw [show ((-1 : Int) ^ 2) = 1 from rfl, Int.one_pow, Int.one_mul]
  · rw [Int.zero_pow (by omega), Int.zero_pow (by omega)]
  · rw [Int.one_pow, Int.one_pow]

/-- `wordPower?` gives the word for the power itself. -/
theorem wordPower?_eq (base : Int) (exponent : Nat) :
    wordPower? base exponent = word? (base.pow exponent) := by
  unfold wordPower?
  split
  case isTrue small =>
    split
    case isTrue => rfl
    case isFalse high => rw [pow_eq_of_natAbs_le_one small (by omega)]
  case isFalse large =>
    split
    case isTrue high => exact (word?_pow_eq_none (by omega) high).symm
    case isFalse => rfl

/-!
### Values

Addition, subtraction and multiplication are one definition, `combine`, applied
to the operation on integers and the one on doubles. A power is exact under a
condition of its own, and a quotient never is, so each of these two has its own
body. `apply_eq_error` is all that a caller has to know of the failures.
-/

namespace Value

/-- How a double is written: without an exponent from a ten-thousandth up to
    sixteen digits. -/
def floatLayout : Decimal.Layout where
  leastPositional := -4
  greatestPositional := 15
  point := '.'
  exponentMark := 'e'
  minus := '-'
  infinity := "inf"
  notANumber := "NaN"

/-- The text of a double. -/
def floatText (x : Float) : String :=
  (FloatClass.ofBits x.toBits).text floatLayout

/-- The text of a value. A double always shows a fraction or an exponent, so the
    two kinds of value can be told apart. -/
def text : Value → String
  | .int i => toString i.toInt
  | .float x => floatText x

/-- The name of the kind of value. -/
def kindName : Value → String
  | .int _ => "Int"
  | .float _ => "Float"

/-- The nearest double. -/
def toFloat : Value → Float
  | .int i => i.toFloat
  | .float x => x

/-- Whether the value is zero; a double zero of either sign is. -/
def isZero : Value → Bool
  | .int i => i == 0
  | .float x => x == 0.0

/-- Whether the value is less than zero. -/
def isNegative : Value → Bool
  | .int i => decide (i < 0)
  | .float x => decide (x < 0.0)

/-- Equality of values as the language sees it: an integer never equals a
    double, and doubles compare as numbers, so that zeros of both signs agree
    and what is not a number differs from itself. -/
def equals : Value → Value → Bool
  | .int i, .int j => i == j
  | .float x, .float y => x == y
  | _, _ => false

/-- An operation that is exact on integers as long as the result fits, and
    otherwise done on doubles. -/
def combine (exact : Int → Int → Int) (inexact : Float → Float → Float)
    (x y : Value) : Value :=
  match x, y with
  | .int i, .int j =>
      match word? (exact i.toInt j.toInt) with
      | some w => .int w
      | none => .float (inexact i.toFloat j.toFloat)
  | x, y => .float (inexact x.toFloat y.toFloat)

/-- The greatest exponent for which a power of integers is computed exactly. -/
def greatestExactExponent : Nat := 4294967295

/-- The exact power of two integers, if it is to be computed exactly and fits. -/
def exactPower? (base exponent : Int64) : Option Int64 :=
  if 0 ≤ exponent.toInt ∧ exponent.toInt.toNat ≤ greatestExactExponent then
    wordPower? base.toInt exponent.toInt.toNat
  else
    none

/-- The power of two values, zero to a negative power apart. -/
def power (x y : Value) : Value :=
  match x, y with
  | .int base, .int exponent =>
      match exactPower? base exponent with
      | some w => .int w
      | none => .float (base.toFloat.pow exponent.toFloat)
  | x, y => .float (x.toFloat.pow y.toFloat)

/-- The result of an operator on two values. -/
def apply (operator : Operator) (x y : Value) : Except ArithmeticFault Value :=
  match operator with
  | .add => .ok (combine (· + ·) (· + ·) x y)
  | .subtract => .ok (combine (· - ·) (· - ·) x y)
  | .multiply => .ok (combine (· * ·) (· * ·) x y)
  | .divide =>
      if y.isZero then .error .divisionByZero else .ok (.float (x.toFloat / y.toFloat))
  | .power =>
      if x.isZero && y.isNegative then .error .zeroToNegativePower else .ok (power x y)

/-- Only a quotient and a power can fail, each of them in one way. -/
theorem apply_eq_error {operator : Operator} {x y : Value}
    {fault : ArithmeticFault} (refused : apply operator x y = .error fault) :
    (operator = .divide ∧ y.isZero = true ∧ fault = .divisionByZero) ∨
      (operator = .power ∧ x.isZero = true ∧ y.isNegative = true ∧
        fault = .zeroToNegativePower) := by
  cases operator with
  | add => cases refused
  | subtract => cases refused
  | multiply => cases refused
  | divide =>
      simp only [apply] at refused
      split at refused
      case isTrue zero =>
        cases refused
        exact .inl ⟨rfl, zero, rfl⟩
      case isFalse => cases refused
  | power =>
      simp only [apply] at refused
      split at refused
      case isTrue both =>
        cases refused
        rw [Bool.and_eq_true] at both
        exact .inr ⟨rfl, both.1, both.2, rfl⟩
      case isFalse => cases refused

end Value

end Abacus
