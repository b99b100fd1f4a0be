/-
Module: Abacus.Number
Purpose: Values together with the place they come from, so that a fault in
  arithmetic can point at the operand to blame. The result of an operation has
  no place until the evaluator gives it one.
Main exports: Number, Number.placedAt, ArithmeticError, Number.apply
-/
import Abacus.Arithmetic
import Abacus.Source

namespace Abacus

/-- A value and the span it was computed at, if it has one. -/
structure Number where
  value : Value
  span? : Option Span := none
deriving DecidableEq, Repr, Inhabited

/-- An arithmetic fault and the span of the operand to blame, if that operand
    has one. -/
structure ArithmeticError where
  fault : ArithmeticFault
  span? : Option Span
deriving DecidableEq, Repr, Inhabited

namespace Number

/-- The same value, computed at `span`. -/
def placedAt (x : Number) (span : Span) : Number :=
  { x with span? := some span }

/-- The text of the value. -/
def text (x : Number) : String :=
  x.value.text

/-- The result of an operator on two numbers. The right operand is to blame for
    any fault. -/
def apply (operator : Operator) (x y : Number) : Except ArithmeticError Number :=
  match x.value.apply operator y.value with
  | .ok value => .ok { value }
  | .error fault => .error { fault, span? := y.span? }

end Number

end Abacus
