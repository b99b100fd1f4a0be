/-
Module: Abacus.Expr.Parser
Purpose: The expression that a list of tokens writes. One function per level of
  precedence:
    expr   := `let` name sign expr | sum
    sum    := term (("+" | "-") term)*
    term   := factor (("*" | "/") factor)*
    factor := ("+" | "-") factor | power
    power  := atom ("^" factor)*
    atom   := integer | float | name | "(" expr ")"
  Each function is given the tokens ahead and returns an expression with the
  tokens that are left, or a fault with the tokens from the offending one on.
  How deep an expression may go is a pair of budgets: every factor and every
  value of a binding takes one level and one unit of height from what is inside
  it, and every operator of a chain one unit of height from what follows it in
  the chain. The recursion is on the levels left, so the parser is total because
  nesting is limited.
Main exports: Expr.ofTokens, Expr.ofSource
-/
import Abacus.Expr
import Abacus.Token.Lexer

namespace Abacus

/-- How many factors and values of bindings may be nested in one another. -/
def greatestNesting : Nat := 100

/-- How high a tree may grow, the operators of a chain counted one above the
    other. -/
def greatestHeight : Nat := 1000

namespace Expr.Parser

/-- Why parsing stopped, and the tokens from the offending one on; none if the
    input had ended. -/
structure Failure where
  fault : SyntaxFault
  ahead : List Token
deriving DecidableEq, Repr, Inhabited

/-- A parser of expressions: what has been read, and the tokens that are left. -/
abbrev Parse := List Token → Except Failure (Expr × List Token)

/-- The first token ahead if it passes the test; anything else is the given
    fault. -/
def expect (test : Token → Bool) (fault : SyntaxFault) :
    List Token → Except Failure (Token × List Token)
  | [] => .error ⟨fault, []⟩
  | token :: rest =>
      if test token then .ok (token, rest) else .error ⟨fault, token :: rest⟩

/-- Whether the token is a plus or a minus sign. -/
def isSign (token : Token) : Bool :=
  token.kind == .plus || token.kind == .minus

/-- Whether the token multiplies or divides. -/
def isScaling (token : Token) : Bool :=
  token.kind == .multiply || token.kind == .divide

/-- Whether the token raises to a power. -/
def isPower (token : Token) : Bool :=
  token.kind == .power

/-- The rest of a chain whose first operands make up `left`, folded to the left.
    Every operator takes one unit from the height that is left for the operands
    after it. -/
def chainRest (isOperator : Token → Bool) (operand : Nat → Parse) : Nat → Expr → Parse
  | _, left, [] => .ok (left, [])
  | 0, left, op :: rest =>
      if isOperator op then .error ⟨.tooDeep, op :: rest⟩ else .ok (left, op :: rest)
  | height + 1, left, op :: rest =>
      if isOperator op then do
        let (right, rest) ← operand height rest
        chainRest isOperator operand height (joinBinary op left right) rest
      else
        .ok (left, op :: rest)

/-- Operands of one kind with operators between them. -/
def chain (isOperator : Token → Bool) (operand : Nat → Parse) (height : Nat) :
    Parse := fun tokens => do
  let (left, rest) ← operand height tokens
  chainRest isOperator operand height left rest

/-- A sum of terms, these being chains of factors. -/
def sumWith (factor : Nat → Parse) : Nat → Parse :=
  chain isSign (chain isScaling factor)

/-- A binding after its keyword: a name, an assignment sign and a value. -/
def bindingWith (value : Nat → Parse) (height : Nat) (keyword : Token) :
    Parse := fun tokens => do
  let (name, rest) ← expect (·.kind == .identifier) .expectedName tokens
  let (_, rest) ← expect (·.kind == .assignment) .expectedAssignment rest
  let (value, rest) ← value height rest
  .ok (joinAssign keyword name value, rest)

/-- A binding if the keyword stands first, else a sum. -/
def exprWith (factor value : Nat → Parse) (height : Nat) : Parse
  | [] => sumWith factor height []
  | token :: rest =>
      if token.isKeyword "let" then bindingWith value height token rest
      else sumWith factor height (token :: rest)

/-- A literal, a name or an expression in brackets. -/
def atomWith (expr : Nat → Parse) (height : Nat) : Parse
  | [] => .error ⟨.expectedOperand, []⟩
  | token :: rest =>
      match token.kind with
      | .integer | .float => .ok (.number token, rest)
      | .identifier => .ok (.access token, rest)
      | .leftParen => do
          let (inner, rest) ← expr height rest
          let (_, rest) ← expect (·.kind == .rightParen) .unclosedBracket rest
          .ok (inner, rest)
      | _ => .error ⟨.expectedOperand, token :: rest⟩

/-- An atom raised to a power. An exponent is a factor, which takes in every
    further power sign, so that powers group to the right. -/
def powerWith (factor expr : Nat → Parse) (height : Nat) : Parse := fun tokens => do
  let (base, rest) ← atomWith expr height tokens
  chainRest isPower factor height base rest

/-- A sign before a factor, or a power. A sign applies to the whole power after
    it. -/
def factorWith (factor expr : Nat → Parse) (height : Nat) : Parse
  | [] => powerWith factor expr height []
  | token :: rest =>
      if isSign token then do
        let (operand, rest) ← factor height rest
        .ok (joinUnary token operand, rest)
      else
        powerWith factor expr height (token :: rest)

mutual

/-- A factor, with `levels` and `height` left for it. -/
def factor : (levels height : Nat) → Parse
  | levels + 1, height + 1, tokens =>
      factorWith (factor levels) (exprWith (factor levels) (value levels)) height tokens
  | _, _, tokens => .error ⟨.tooDeep, tokens⟩

/-- The value of a binding, with `levels` and `height` left for it. -/
def value : (levels height : Nat) → Parse
  | levels + 1, height + 1, tokens =>
      exprWith (factor levels) (value levels) height tokens
  | _, _, tokens => .error ⟨.tooDeep, tokens⟩

end

/-- An expression, inside which `levels` and `height` are left. -/
def expr (levels : Nat) : (height : Nat) → Parse :=
  exprWith (factor levels) (value levels)

/-- The whole of the tokens as one expression within the given limits. -/
def whole (levels height : Nat) (tokens : List Token) : Except Failure Expr :=
  match expr levels height tokens with
  | .ok (e, []) => .ok e
  | .ok (_, rest) => .error ⟨.trailingTokens, rest⟩
  | .error failure => .error failure

end Expr.Parser

/-- The tokens before the first end of the input. What follows it plays no part. -/
def Token.beforeEnd (tokens : List Token) : List Token :=
  tokens.takeWhile (·.kind != .endOfInput)

/-- The place where the input ends: that of the first end-of-input token.
    Without one it is right after the last token, and without any token in an
    empty source. -/
def Token.endSpan (tokens : List Token) : Span :=
  match tokens.find? (·.kind == .endOfInput) with
  | some stop => stop.span
  | none =>
      match tokens.getLast? with
      | some last => .point last.span.stop last.span.source
      | none => .point {} { label := "<empty>", content := "" }

/-- The place of a failure: the offending token, or the end of the input if
    there is none. -/
def Expr.Parser.Failure.diagnostic (failure : Failure) (stop : Span) : Diagnostic :=
  .grammatical failure.fault ((failure.ahead.head?.map Token.span).getD stop)

namespace Expr

/-- The expression that a list of tokens writes. -/
def ofTokens (tokens : List Token) : Except Diagnostic Expr :=
  (Parser.whole greatestNesting greatestHeight (Token.beforeEnd tokens)).mapError
    (·.diagnostic (Token.endSpan tokens))

/-- The expression that a source writes. -/
def ofSource (source : Source) : Except Diagnostic Expr :=
  match source.tokens with
  | .ok tokens => ofTokens tokens
  | .error diagnostic => .error diagnostic

end Expr

end Abacus
