/-
Module: Abacus.Proofs.Cursor
Purpose: The parser as a machine. It keeps all the tokens, a position in them
  and two counters, and it counts up where the parser of token lists counts its
  budgets down. Every access by index, every subtraction and every repetition is
  checked, so that the machine can trip. The counters that go up when a routine
  is entered come down again when it is left, also with a fault. The lemmas say
  what each elementary routine does at a place among the tokens; none of them
  trips there.
Main exports: Trip, Stop, Cursor, Cursor.Step, Cursor.ofTokens, Cursor.Ending,
  Cursor.Ending.between
-/
import Abacus.Expr.Parser

namespace Abacus

/-- What a checked machine cannot go on after: an index past the end of a list,
    a number below zero, more repetitions than were allowed for, and a case that
    was held to be impossible. -/
inductive Trip where
  | outOfRange
  | underflow
  | endless
  | unreachable
deriving DecidableEq, Repr, Inhabited

/-- Why the machine stopped: a fault of the tokens, or a trip of its own. -/
inductive Stop where
  | fault (diagnostic : Diagnostic)
  | trip (trip : Trip)
deriving DecidableEq, Repr, Inhabited

/-- The state of the machine: all the tokens, how many of them have been passed,
    how many routines that nest are under way, and how many levels of the tree
    are above what is read next. -/
structure Cursor where
  tokens : List Token
  position : Nat := 0
  nesting : Nat := 0
  height : Nat := 0
deriving DecidableEq, Repr, Inhabited

namespace Cursor

/-- A routine of the machine. What it changes stays changed if it stops. -/
abbrev Step (α : Type) := ExceptT Stop (StateM Cursor) α

/-!
### Routines

The routines, each with the checks that a program makes when it reads a list by
index, subtracts or repeats something: where a check fails the machine trips.
Those that nest take the routines inside as arguments, and `factor` and `value`
tie the knot by a bound on how many of them are run one in another.
-/

/-- The number before `n`. -/
def decrement : Nat → Step Nat
  | 0 => throw (.trip .underflow)
  | n + 1 => pure n

/-- The token at a place of a list. -/
def index (tokens : List Token) (place : Nat) : Step Token :=
  match tokens[place]? with
  | some token => pure token
  | none => throw (.trip .outOfRange)

/-- The token at the position, and the last one beyond that. -/
def current : Step Token := do
  let cursor ← get
  let last ← decrement cursor.tokens.length
  index cursor.tokens (min cursor.position last)

/-- Passes a token; the last one is never passed. -/
def advance : Step Token := do
  let token ← current
  let cursor ← get
  let last ← decrement cursor.tokens.length
  if cursor.position < last then
    set { cursor with position := cursor.position + 1 }
  pure token

/-- Stops at the current token. -/
def fail {α : Type} (fault : SyntaxFault) : Step α := do
  let token ← current
  throw (.fault (.grammatical fault token.span))

/-- Passes a token that is expected. -/
def expect (test : Token → Bool) (fault : SyntaxFault) : Step Token := do
  if test (← current) then advance else fail fault

/-- Counts one more level of the tree. -/
def grow : Step Unit := do
  let cursor ← get
  if greatestHeight ≤ cursor.height then
    fail .tooDeep
  else
    set { cursor with height := cursor.height + 1 }

/-- Takes back what `descend` has counted. -/
def ascend : Step Unit := do
  let cursor ← get
  let nesting ← decrement cursor.nesting
  let height ← decrement cursor.height
  set { cursor with nesting, height }

/-- What is done once an inner routine has come to an outcome: after a trip
    nothing, else the counters come down. -/
def settle : Except Stop Expr → Step Expr
  | .error (.trip trip) => throw (.trip trip)
  | .error (.fault diagnostic) => do
      ascend
      throw (.fault diagnostic)
  | .ok tree => do
      ascend
      pure tree

/-- Runs a routine one level deeper. The counters come down again whether it is
    done or meets a fault. -/
def descend (inner : Step Expr) : Step Expr := do
  let cursor ← get
  if greatestNesting ≤ cursor.nesting then
    fail .tooDeep
  else
    grow
    modify fun cursor => { cursor with nesting := cursor.nesting + 1 }
    let outcome ← ExceptT.lift inner.run
    settle outcome

/-- Runs a routine and sets the height back to what it was before, unless the
    routine meets a fault. -/
def keepingHeight (inner : Step Expr) : Step Expr := do
  let before ← get
  let tree ← inner
  modify fun cursor => { cursor with height := before.height }
  pure tree

/-- Operators and operands, as long as an operator is next, folded to the left
    onto what was read before. At most `turns` operators are looked for. -/
def operators (isOperator : Token → Bool) (operand : Step Expr) :
    (turns : Nat) → Expr → Step Expr
  | 0, _ => throw (.trip .endless)
  | turns + 1, left => do
      if isOperator (← current) then
        grow
        let op ← advance
        let right ← operand
        operators isOperator operand turns (.joinBinary op left right)
      else
        pure left

/-- An operand and what is joined to it by operators. These count as levels of
    the tree only until the chain ends. -/
def chain (isOperator : Token → Bool) (first operand : Step Expr) : Step Expr :=
  keepingHeight do
    let left ← first
    operators isOperator operand (greatestHeight + 1) left

/-- A sum of terms, these being chains of factors. -/
def sum (factor : Step Expr) : Step Expr :=
  let term := chain Expr.Parser.isScaling factor factor
  chain Expr.Parser.isSign term term

/-- A binding: a keyword, a name, an assignment sign and a value. -/
def binding (value : Step Expr) : Step Expr := do
  let keyword ← advance
  let name ← expect (·.kind == .identifier) .expectedName
  let _ ← expect (·.kind == .assignment) .expectedAssignment
  let value ← value
  pure (.joinAssign keyword name value)

/-- A binding if the keyword is next, else a sum. -/
def expr (factor value : Step Expr) : Step Expr := do
  if (← current).isKeyword "let" then binding value else sum factor

/-- An expression in brackets. -/
def brackets (expr : Step Expr) : Step Expr := do
  let _ ← advance
  let inner ← expr
  let _ ← expect (·.kind == .rightParen) .unclosedBracket
  pure inner

/-- A literal, a name or an expression in brackets. -/
def atom (expr : Step Expr) : Step Expr := do
  match (← current).kind with
  | .integer | .float => Expr.number <$> advance
  | .identifier => Expr.access <$> advance
  | .leftParen => brackets expr
  | _ => fail .expectedOperand

/-- A sign before a factor, or an atom raised to a power. -/
def signed (factor expr : Step Expr) : Step Expr := do
  if Expr.Parser.isSign (← current) then
    let op ← advance
    let operand ← factor
    pure (.joinUnary op operand)
  else
    chain Expr.Parser.isPower (atom expr) factor

mutual

/-- A factor, in which at most `depth` routines are run one in another. -/
def factor : (depth : Nat) → Step Expr
  | 0 => throw (.trip .endless)
  | depth + 1 => descend (signed (factor depth) (expr (factor depth) (value depth)))

/-- The value of a binding, in which at most `depth` routines are run one in
    another. -/
def value : (depth : Nat) → Step Expr
  | 0 => throw (.trip .endless)
  | depth + 1 => descend (expr (factor depth) (value depth))

end

/-- One expression, after which the input ends. -/
def whole : Step Expr := do
  let tree ← expr (factor (greatestNesting + 1)) (value (greatestNesting + 1))
  if (← current).kind == .endOfInput then pure tree else fail .trailingTokens

/-- The tokens with an end of the input, which is put after the last token if
    that is none. -/
def terminated (tokens : List Token) : List Token :=
  match tokens.getLast? with
  | some last =>
      if last.kind == .endOfInput then tokens
      else tokens ++
        [{ kind := .endOfInput, span := .point last.span.stop last.span.source }]
  | none =>
      [{ kind := .endOfInput, span := .point {} { label := "<empty>", content := "" } }]

/-- What the machine comes to on a list of tokens. -/
def ofTokens (tokens : List Token) : Except Stop Expr :=
  (whole { tokens := terminated tokens }).1

/-!
### Steps

How a sequence goes on after its first step. A state and a result are one pair,
so a step that is known at a state can be rewritten away.
-/

section

variable {α β : Type} {cursor after : Cursor}

theorem bind_of_ok {step : Step α} {a : α} (done : step cursor = (.ok a, after))
    (next : α → Step β) : (step >>= next) cursor = next a after := by
  change StateT.bind step (ExceptT.bindCont next) cursor = next a after
  rw [StateT.bind, done]
  rfl

theorem bind_of_error {step : Step α} {stop : Stop}
    (stopped : step cursor = (.error stop, after)) (next : α → Step β) :
    (step >>= next) cursor = (.error stop, after) := by
  change StateT.bind step (ExceptT.bindCont next) cursor = (.error stop, after)
  rw [StateT.bind, stopped]
  rfl

theorem get_bind (next : Cursor → Step β) :
    ((get : Step Cursor) >>= next) cursor = next cursor cursor := rfl

theorem decrement_bind {n : Nat} (positive : 0 < n) (next : Nat → Step β) :
    (decrement n >>= next) cursor = next (n - 1) cursor := by
  cases n with
  | zero => exact absurd positive (Nat.lt_irrefl 0)
  | succ n => rfl

end

/-!
### Places among the tokens

The state is described by the tokens behind the position and those ahead of it.
At such a place the checks of the elementary steps hold: there is a current
token, a position can be advanced while tokens are ahead, and what was counted
can be counted down.
-/

/-- The end of the input, and the tokens after it. -/
structure Ending where
  stop : Token
  beyond : List Token
  isEnd : stop.kind = .endOfInput

/-- The machine between the tokens that were passed and those ahead, which the
    end of the input follows. -/
def Ending.between (ending : Ending) (behind ahead : List Token)
    (nesting height : Nat) : Cursor where
  tokens := behind ++ (ahead ++ ending.stop :: ending.beyond)
  position := behind.length
  nesting := nesting
  height := height

/-- The token that comes next: the first one ahead, or the end of the input. -/
def Ending.next (ending : Ending) (ahead : List Token) : Token :=
  ahead.head?.getD ending.stop

theorem Ending.isSign_stop (ending : Ending) :
    Expr.Parser.isSign ending.stop = false := by
  simp [Expr.Parser.isSign, ending.isEnd]

theorem Ending.isScaling_stop (ending : Ending) :
    Expr.Parser.isScaling ending.stop = false := by
  simp [Expr.Parser.isScaling, ending.isEnd]

theorem Ending.isPower_stop (ending : Ending) :
    Expr.Parser.isPower ending.stop = false := by
  simp [Expr.Parser.isPower, ending.isEnd]

theorem Ending.isKeyword_stop (ending : Ending) (word : String) :
    ending.stop.isKeyword word = false := by
  simp [Token.isKeyword, ending.isEnd]

section

variable (ending : Ending) (behind ahead rest : List Token) (token : Token)
    (nesting height : Nat)

@[simp] theorem Ending.nesting_between :
    (ending.between behind ahead nesting height).nesting = nesting := rfl

@[simp] theorem Ending.height_between :
    (ending.between behind ahead nesting height).height = height := rfl

@[simp] theorem Ending.next_nil : ending.next [] = ending.stop := rfl

@[simp] theorem Ending.next_cons : ending.next (token :: ahead) = token := rfl

/-- The end of the input is behind all the tokens ahead. -/
theorem length_tokens_between :
    behind.length + ahead.length <
      (ending.between behind ahead nesting height).tokens.length := by
  simp only [Ending.between, List.length_append, List.length_cons]
  omega

/-- There is always a current token. -/
theorem current_between :
    current (ending.between behind ahead nesting height) =
      (.ok (ending.next ahead), ending.between behind ahead nesting height) := by
  have inside := length_tokens_between ending behind ahead nesting height
  have place : min behind.length
      ((ending.between behind ahead nesting height).tokens.length - 1) =
      behind.length := by omega
  have here : (ending.between behind ahead nesting height).tokens[behind.length]? =
      some (ending.next ahead) := by
    rw [Ending.between, List.getElem?_append_right (Nat.le_refl _), Nat.sub_self]
    cases ahead <;> rfl
  rw [current, get_bind, decrement_bind (by omega)]
  change index _ (min behind.length _) _ = _
  rw [place, index, here]
  rfl

/-- A token ahead is passed. -/
theorem advance_between :
    advance (ending.between behind (token :: rest) nesting height) =
      (.ok token, ending.between (behind ++ [token]) rest nesting height) := by
  have inside := length_tokens_between ending behind (token :: rest) nesting height
  rw [List.length_cons] at inside
  have notLast : (ending.between behind (token :: rest) nesting height).position <
      (ending.between behind (token :: rest) nesting height).tokens.length - 1 := by
    change behind.length < _
    omega
  rw [advance, bind_of_ok
      (current_between ending behind (token :: rest) nesting height), get_bind,
      decrement_bind (by omega)]
  simp only [if_pos notLast]
  simp [Ending.between]
  rfl

/-- A fault points at the token that comes next. -/
theorem fail_between {α : Type} (fault : SyntaxFault) :
    (fail fault : Step α) (ending.between behind ahead nesting height) =
      (.error (.fault (Expr.Parser.Failure.diagnostic ⟨fault, ahead⟩ ending.stop.span)),
        ending.between behind ahead nesting height) := by
  rw [fail, bind_of_ok (current_between ending behind ahead nesting height)]
  cases ahead <;> rfl

theorem grow_between (room : height < greatestHeight) :
    grow (ending.between behind ahead nesting height) =
      (.ok (), ending.between behind ahead nesting (height + 1)) := by
  rw [grow, get_bind, Ending.height_between, if_neg (Nat.not_le_of_lt room)]
  rfl

theorem grow_between_of_full (full : greatestHeight ≤ height) :
    grow (ending.between behind ahead nesting height) =
      (.error (.fault
          (Expr.Parser.Failure.diagnostic ⟨.tooDeep, ahead⟩ ending.stop.span)),
        ending.between behind ahead nesting height) := by
  rw [grow, get_bind, Ending.height_between, if_pos full]
  exact fail_between ending behind ahead nesting height .tooDeep

/-- What was counted can be taken back. -/
theorem ascend_between :
    ascend (ending.between behind ahead (nesting + 1) (height + 1)) =
      (.ok (), ending.between behind ahead nesting height) := rfl

end

end Cursor

end Abacus
