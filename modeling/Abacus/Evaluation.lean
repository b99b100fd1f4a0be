/-
Module: Abacus.Evaluation
Purpose: The value of an expression. Operands are evaluated from left to right
  and each node after its operands; bindings go to the innermost scope and stay
  there even if the expression fails later. What was computed and bound is noted
  in a journal. What a node does with the values of its operands is said by one
  function per kind of node, which see neither bindings nor journal; `evaluate`
  only orders them. The lemmas say when a node has a value, in terms of the
  values of its operands.
Main exports: Event, Machine, literalNumber, lookUp, applySign, applyOperator,
  evaluate
-/
import Abacus.Context
import Abacus.Environment
import Abacus.Expr

namespace Abacus

/-- A step of an evaluation that is noted: the result of a binary node, or a
    binding. -/
inductive Event where
  | computed (node : Expr) (result : Number)
  | bound (name : String) (value : Number)
deriving DecidableEq, Repr, Inhabited

/-- What an evaluation changes: the bindings, and the journal in the order of
    the events. -/
structure Machine where
  environment : Environment := .empty
  journal : List Event := []
deriving DecidableEq, Repr, Inhabited

namespace Machine

/-- Adds an event at the end of the journal. -/
def note (event : Event) (machine : Machine) : Machine :=
  { machine with journal := machine.journal ++ [event] }

/-- Binds a name and notes the binding. -/
def bind (name : String) (x : Number) (machine : Machine) : Machine :=
  { machine.note (.bound name x) with environment := machine.environment.set name x }

end Machine

/-!
### Nodes

Every result is placed at the span of its node, so that a later fault points
into the submission at hand and not to where an operand was bound.
-/

/-- The number that a literal carries. -/
def literalNumber (context : Context) (literal : Token) : Except Diagnostic Number :=
  match literal.payload?.bind Payload.value? with
  | some value => .ok { value, span? := some literal.span }
  | none => .error (context.fault .literalWithoutNumber literal.span)

/-- The number that a name means, placed where the name stands. -/
def lookUp (context : Context) (environment : Environment) (name : Token) :
    Except Diagnostic Number :=
  match environment.get? (Expr.nameOf name) with
  | some x => .ok (x.placedAt name.span)
  | none => .error (context.fault (.unknownName (Expr.nameOf name)) name.span)

/-- The negative of a value, which is zero less the value; so the negative of
    zero is zero and has no sign. -/
def Value.negate (x : Value) : Value :=
  combine (· - ·) (· - ·) (.int 0) x

/-- A sign before a number. Only the minus sign changes the value. -/
def applySign (op : Token) (x : Number) (span : Span) : Number :=
  { value := if op.kind = .minus then x.value.negate else x.value, span? := some span }

/-- An operator between two numbers. A fault points at the operand to blame, or
    at the whole node if that operand has no place. -/
def applyOperator (context : Context) (op : Token) (x y : Number) (span : Span) :
    Except Diagnostic Number :=
  match op.kind.operator? with
  | none => .error (context.fault (.notAnOperator op.kind) span)
  | some operator =>
      match x.apply operator y with
      | .ok result => .ok (result.placedAt span)
      | .error error =>
          .error (context.fault (.arithmetic error.fault) (error.span?.getD span))

/-- A literal comes to the value it carries, placed where the literal stands. -/
theorem literalNumber_eq_ok_iff {context : Context} {literal : Token} {x : Number} :
    literalNumber context literal = .ok x ↔
      ∃ value, literal.payload?.bind Payload.value? = some value ∧
        x = { value, span? := some literal.span } := by
  unfold literalNumber
  split
  case h_1 value carried => simp [carried, eq_comm]
  case h_2 lacking => simp [lacking]

/-- A name comes to the number it means, placed where the name stands. -/
theorem lookUp_eq_ok_iff {context : Context} {environment : Environment}
    {name : Token} {x : Number} :
    lookUp context environment name = .ok x ↔
      ∃ y, environment.get? (Expr.nameOf name) = some y ∧ x = y.placedAt name.span := by
  unfold lookUp
  split
  case h_1 y found => simp [found, eq_comm]
  case h_2 unbound => simp [unbound]

/-- An operator comes to the value that it has on the values of its operands,
    placed at the whole node. -/
theorem applyOperator_eq_ok_iff {context : Context} {op : Token}
    {x y result : Number} {span : Span} :
    applyOperator context op x y span = .ok result ↔
      ∃ operator value, op.kind.operator? = some operator ∧
        x.value.apply operator y.value = .ok value ∧
        result = { value, span? := some span } := by
  unfold applyOperator Number.apply
  cases op.kind.operator? with
  | none => simp
  | some operator =>
      cases computed : x.value.apply operator y.value with
      | ok value => simp [computed, Number.placedAt, eq_comm]
      | error fault => simp [computed]

/-- If the operand to blame has a place, the fault points there, whatever place
    there is to fall back on. -/
theorem applyOperator_eq_error {context : Context} {op : Token} {x y : Number}
    {span place : Span} {diagnostic : Diagnostic}
    (refused : applyOperator context op x y span = .error diagnostic)
    (written : ∃ operator, op.kind.operator? = some operator)
    (placed : y.span? = some place) :
    ∃ operator fault, op.kind.operator? = some operator ∧
      x.value.apply operator y.value = .error fault ∧
      diagnostic = context.fault (.arithmetic fault) place ∧
      ∀ fallback, applyOperator context op x y fallback = .error diagnostic := by
  obtain ⟨operator, written⟩ := written
  cases computed : x.value.apply operator y.value with
  | ok value =>
      have done :
          applyOperator context op x y span = .ok { value, span? := some span } :=
        applyOperator_eq_ok_iff.mpr ⟨operator, value, written, computed, rfl⟩
      cases refused.symm.trans done
  | error fault =>
      have points (fallback : Span) :
          applyOperator context op x y fallback =
            .error (context.fault (.arithmetic fault) place) := by
        simp [applyOperator, Number.apply, written, computed, placed]
      cases refused.symm.trans (points span)
      exact ⟨operator, fault, written, computed, rfl, points⟩

/-!
### Trees

`evaluate` orders what the nodes do: it takes the operands from left to right
and hands the machine from each to the next. The lemmas say when a composite
node has a value. Each of them names the machine between its operands, which a
proof about a tree needs for its induction.
-/

/-- The value of an expression in a context, and the machine afterwards. What an
    expression did before it failed remains done. -/
def evaluate (context : Context) : Expr → Machine → Except Diagnostic Number × Machine
  | .number literal, machine => (literalNumber context literal, machine)
  | .access name, machine => (lookUp context machine.environment name, machine)
  | .unary op operand span, machine =>
      match evaluate context operand machine with
      | (.error diagnostic, machine) => (.error diagnostic, machine)
      | (.ok x, machine) => (.ok (applySign op x span), machine)
  | .binary op left right span, machine =>
      match evaluate context left machine with
      | (.error diagnostic, machine) => (.error diagnostic, machine)
      | (.ok x, machine) =>
          match evaluate context right machine with
          | (.error diagnostic, machine) => (.error diagnostic, machine)
          | (.ok y, machine) =>
              match applyOperator context op x y span with
              | .error diagnostic => (.error diagnostic, machine)
              | .ok result =>
                  (.ok result,
                    machine.note (.computed (.binary op left right span) result))
  | .assign name value span, machine =>
      match evaluate context value machine with
      | (.error diagnostic, machine) => (.error diagnostic, machine)
      | (.ok x, machine) =>
          (.ok (x.placedAt span), machine.bind (Expr.nameOf name) (x.placedAt span))

section

variable {context : Context} {machine after : Machine} {x : Number}

/-- A sign has a value if its operand has one. -/
theorem evaluate_unary_eq_ok_iff {op : Token} {operand : Expr} {span : Span} :
    evaluate context (.unary op operand span) machine = (.ok x, after) ↔
      ∃ y, evaluate context operand machine = (.ok y, after) ∧
        applySign op y span = x := by
  rw [evaluate]
  split
  case h_1 failed => simp [failed]
  case h_2 y last done =>
    rw [done]
    constructor
    · intro same
      cases same
      exact ⟨y, rfl, rfl⟩
    · rintro ⟨_, same, rfl⟩
      cases same
      rfl

/-- An operator has a value if its left operand has one, its right operand has
    one after that, and the two numbers can be operated on. -/
theorem evaluate_binary_eq_ok_iff {op : Token} {left right : Expr} {span : Span} :
    evaluate context (.binary op left right span) machine = (.ok x, after) ↔
      ∃ y middle z last, evaluate context left machine = (.ok y, middle) ∧
        evaluate context right middle = (.ok z, last) ∧
        applyOperator context op y z span = .ok x ∧
        last.note (.computed (.binary op left right span) x) = after := by
  rw [evaluate]
  split
  case h_1 failed => simp [failed]
  case h_2 y middle leftDone =>
    split
    case h_1 failed => simp [leftDone, failed]
    case h_2 z last rightDone =>
      split
      case h_1 refused =>
        constructor
        · rintro ⟨⟩
        · rintro ⟨_, _, _, _, leftSame, rightSame, computed, _⟩
          cases leftDone.symm.trans leftSame
          cases rightDone.symm.trans rightSame
          cases refused.symm.trans computed
      case h_2 result computed =>
        constructor
        · intro same
          cases same
          exact ⟨y, middle, z, last, leftDone, rightDone, computed, rfl⟩
        · rintro ⟨_, _, _, _, leftSame, rightSame, resultSame, rfl⟩
          cases leftDone.symm.trans leftSame
          cases rightDone.symm.trans rightSame
          cases computed.symm.trans resultSame
          rfl

/-- A binding has a value if what it binds has one. -/
theorem evaluate_assign_eq_ok_iff {name : Token} {value : Expr} {span : Span} :
    evaluate context (.assign name value span) machine = (.ok x, after) ↔
      ∃ y last, evaluate context value machine = (.ok y, last) ∧ y.placedAt span = x ∧
        last.bind (Expr.nameOf name) x = after := by
  rw [evaluate]
  split
  case h_1 failed => simp [failed]
  case h_2 y last done =>
    rw [done]
    constructor
    · intro same
      cases same
      exact ⟨y, last, rfl, rfl, rfl⟩
    · rintro ⟨_, _, same, rfl, rfl⟩
      cases same
      rfl

end

end Abacus
