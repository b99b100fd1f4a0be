/-
Module: Abacus.Proofs.TracedCursor
Purpose: What happens while the machine parses. A traced step is a step of the
  machine together with the events in its course: the states that the machine
  comes to, one after each elementary step, and the calls of its routines with
  the states in which these are entered and left. The traced routines are those
  of the machine, so tracing changes nothing (`Cursor.Traced.step_whole`).
Main exports: Cursor.Routine, Cursor.Call, Cursor.Event, Cursor.Traced,
  Cursor.Traced.ofTokens, Cursor.Traced.step_whole
-/
import Abacus.Proofs.Cursor
import Mathlib.Data.List.Basic

namespace Abacus

namespace Cursor

/-!
### Traced steps

A traced step is a step together with the events from every state it can begin
in. In a sequence the events of the second step are those from the state in
which the first one ends. The routines are then written down once more over
traced steps, with a mark at each call.
-/

/-- The routines whose calls are told apart. One that runs another one a level
    deeper goes by what it runs: what a factor is, or the expression that is the
    value of a binding. -/
inductive Routine where
  | expr
  | binding
  | term
  | factor
  | power
  | atom
  | deeperSigned
  | deeperExpr
deriving DecidableEq, Repr, Inhabited

/-- A call that has come to its outcome, with the states in which the routine
    was entered and left. -/
structure Call where
  routine : Routine
  entry : Cursor
  outcome : Except Stop Expr
  exit : Cursor
deriving DecidableEq

/-- What happens in the course of a step: the machine comes to a state, or a
    call to its outcome. -/
inductive Event where
  | state (cursor : Cursor)
  | call (call : Call)
deriving DecidableEq

/-- A step of the machine, and what happens in its course from each state. -/
structure Traced (α : Type) where
  step : Step α
  events : Cursor → List Event

namespace Traced

/-- After a fault nothing more happens. -/
instance : Monad Traced where
  pure a := { step := pure a, events := fun _ => [] }
  bind first next :=
    { step := first.step >>= fun a => (next a).step
      events := fun cursor =>
        first.events cursor ++
          match first.step cursor with
          | (.ok a, after) => (next a).events after
          | (.error _, _) => [] }

/-- A step that changes the state at most once. -/
def elementary {α : Type} (step : Step α) : Traced α where
  step := step
  events cursor := [.state (step cursor).2]

/-- A step that is the call of a routine. -/
def call (routine : Routine) (body : Traced Expr) : Traced Expr where
  step := body.step
  events cursor :=
    body.events cursor ++
      [.call ⟨routine, cursor, (body.step cursor).1, (body.step cursor).2⟩]

/-- A step whose outcome is looked at. -/
def caught (inner : Traced Expr) : Traced (Except Stop Expr) where
  step := ExceptT.lift inner.step.run
  events := inner.events

/-- Takes back what `descend` has counted: first the nesting, then the height. -/
def ascend : Traced Unit where
  step := Cursor.ascend
  events cursor := [.state { cursor with nesting := cursor.nesting - 1 },
    .state (Cursor.ascend cursor).2]

/-- What is done once an inner routine has come to an outcome. -/
def settle : Except Stop Expr → Traced Expr
  | .error (.trip trip) => elementary (throw (.trip trip))
  | .error (.fault diagnostic) => do
      ascend
      elementary (throw (.fault diagnostic))
  | .ok tree => do
      ascend
      pure tree

/-- Runs a routine one level deeper, which is built only then. -/
def descend (inner : Unit → Traced Expr) : Traced Expr := do
  let cursor ← elementary get
  if greatestNesting ≤ cursor.nesting then
    elementary (fail .tooDeep)
  else
    elementary grow
    elementary (modify fun cursor => { cursor with nesting := cursor.nesting + 1 })
    let outcome ← caught (inner ())
    settle outcome

/-- Runs a routine and sets the height back. -/
def keepingHeight (inner : Traced Expr) : Traced Expr := do
  let before ← elementary get
  let tree ← inner
  elementary (modify fun cursor => { cursor with height := before.height })
  pure tree

/-- Operators and operands, as long as an operator is next. -/
def operators (isOperator : Token → Bool) (operand : Traced Expr) :
    (turns : Nat) → Expr → Traced Expr
  | 0, _ => elementary (throw (.trip .endless))
  | turns + 1, left => do
      if isOperator (← elementary current) then
        elementary grow
        let op ← elementary advance
        let right ← operand
        operators isOperator operand turns (.joinBinary op left right)
      else
        pure left

/-- An operand and what is joined to it by operators. -/
def chain (isOperator : Token → Bool) (first operand : Traced Expr) : Traced Expr :=
  keepingHeight do
    let left ← first
    operators isOperator operand (greatestHeight + 1) left

/-- A sum of terms. -/
def sum (factor : Traced Expr) : Traced Expr :=
  let term := call .term (chain Expr.Parser.isScaling factor factor)
  chain Expr.Parser.isSign term term

/-- A binding: a keyword, a name, an assignment sign and a value. -/
def binding (value : Traced Expr) : Traced Expr := call .binding do
  let keyword ← elementary advance
  let name ← elementary (expect (·.kind == .identifier) .expectedName)
  let _ ← elementary (expect (·.kind == .assignment) .expectedAssignment)
  let value ← value
  pure (.joinAssign keyword name value)

/-- A binding if the keyword is next, else a sum. -/
def expr (factor value : Traced Expr) : Traced Expr := call .expr do
  if (← elementary current).isKeyword "let" then binding value else sum factor

/-- An expression in brackets. -/
def brackets (expr : Traced Expr) : Traced Expr := do
  let _ ← elementary advance
  let inner ← expr
  let _ ← elementary (expect (·.kind == .rightParen) .unclosedBracket)
  pure inner

/-- A literal, a name or an expression in brackets. -/
def atom (expr : Traced Expr) : Traced Expr := call .atom do
  match (← elementary current).kind with
  | .integer | .float => elementary (Expr.number <$> advance)
  | .identifier => elementary (Expr.access <$> advance)
  | .leftParen => brackets expr
  | _ => elementary (fail .expectedOperand)

/-- A sign before a factor, or an atom raised to a power. -/
def signed (factor expr : Traced Expr) : Traced Expr := do
  if Expr.Parser.isSign (← elementary current) then
    let op ← elementary advance
    let operand ← factor
    pure (.joinUnary op operand)
  else
    call .power (chain Expr.Parser.isPower (atom expr) factor)

mutual

/-- A factor, in which at most `depth` routines are run one in another. -/
def factor : (depth : Nat) → Traced Expr
  | 0 => elementary (throw (.trip .endless))
  | depth + 1 =>
      call .factor (call .deeperSigned (descend fun _ =>
          signed (factor depth) (expr (factor depth) (value depth))))

/-- The value of a binding, in which at most `depth` routines are run one in
    another. -/
def value : (depth : Nat) → Traced Expr
  | 0 => elementary (throw (.trip .endless))
  | depth + 1 =>
      call .deeperExpr (descend fun _ => expr (factor depth) (value depth))

end

/-- One expression, after which the input ends. -/
def whole : Traced Expr := do
  let tree ← expr (factor (greatestNesting + 1)) (value (greatestNesting + 1))
  if (← elementary current).kind == .endOfInput then pure tree
  else elementary (fail .trailingTokens)

/-- What the machine comes to on a list of tokens, and all that happens until
    then. -/
def ofTokens (tokens : List Token) : Except Stop Expr × List Event :=
  let start : Cursor := { tokens := terminated tokens }
  ((whole.step start).1, .state start :: whole.events start)

/-!
### Tracing changes nothing

Forgetting the events gives the machine back. One lemma for each routine, by the
lemmas about the routines inside; so whatever is said of the outcome of a traced
routine is said of the routine itself.
-/

section

variable {α β : Type}

@[simp] theorem step_pure (a : α) : (pure a : Traced α).step = pure a := rfl

@[simp] theorem step_bind (first : Traced α) (next : α → Traced β) :
    (first >>= next).step = first.step >>= fun a => (next a).step := rfl

@[simp] theorem step_ite (condition : Prop) [Decidable condition]
    (first second : Traced α) :
    (if condition then first else second).step =
      if condition then first.step else second.step :=
  apply_ite step condition first second

@[simp] theorem step_elementary (step : Step α) : (elementary step).step = step := rfl

@[simp] theorem step_call (routine : Routine) (body : Traced Expr) :
    (call routine body).step = body.step := rfl

theorem step_settle (outcome : Except Stop Expr) :
    (settle outcome).step = Cursor.settle outcome := by
  rcases outcome with (diagnostic | trip) | tree <;> rfl

theorem step_descend (inner : Unit → Traced Expr) :
    (descend inner).step = Cursor.descend (inner ()).step := by
  simp [descend, Cursor.descend, step_settle, caught]

theorem step_keepingHeight (inner : Traced Expr) :
    (keepingHeight inner).step = Cursor.keepingHeight inner.step := rfl

theorem step_operators (isOperator : Token → Bool) (operand : Traced Expr)
    (turns : Nat) (left : Expr) :
    (operators isOperator operand turns left).step =
      Cursor.operators isOperator operand.step turns left := by
  induction turns generalizing left with
  | zero => rfl
  | succ turns inductionHypothesis =>
      simp [operators, Cursor.operators, inductionHypothesis]

theorem step_chain (isOperator : Token → Bool) (first operand : Traced Expr) :
    (chain isOperator first operand).step =
      Cursor.chain isOperator first.step operand.step := by
  simp [chain, Cursor.chain, step_keepingHeight, step_operators]

theorem step_sum (factor : Traced Expr) :
    (sum factor).step = Cursor.sum factor.step := by
  simp [sum, Cursor.sum, step_chain]

theorem step_binding (value : Traced Expr) :
    (binding value).step = Cursor.binding value.step := rfl

theorem step_expr (factor value : Traced Expr) :
    (expr factor value).step = Cursor.expr factor.step value.step := by
  simp [expr, Cursor.expr, step_binding, step_sum]

theorem step_atom (expr : Traced Expr) : (atom expr).step = Cursor.atom expr.step := by
  simp only [atom, Cursor.atom, step_call, step_bind, step_elementary]
  congr 1
  funext token
  cases token.kind <;> rfl

theorem step_signed (factor expr : Traced Expr) :
    (signed factor expr).step = Cursor.signed factor.step expr.step := by
  simp [signed, Cursor.signed, step_chain, step_atom]

theorem step_nested (depth : Nat) :
    (factor depth).step = Cursor.factor depth ∧
      (value depth).step = Cursor.value depth := by
  induction depth with
  | zero => exact ⟨rfl, rfl⟩
  | succ depth inductionHypothesis =>
      obtain ⟨factors, values⟩ := inductionHypothesis
      constructor
      · simp [factor, Cursor.factor, step_descend, step_signed, step_expr,
          factors, values]
      · simp [value, Cursor.value, step_descend, step_expr, factors, values]

theorem step_whole : whole.step = Cursor.whole := by
  simp [whole, Cursor.whole, step_expr, step_nested]

end

end Traced

end Cursor

end Abacus
