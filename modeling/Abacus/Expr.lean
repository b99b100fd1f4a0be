/-
Module: Abacus.Expr
Purpose: Expression trees. A leaf is a token; every other node also keeps the
  span from where its first token starts to where its last operand stops.
  Brackets leave no node.
Main exports: Expr, Expr.span, Expr.joinUnary, Expr.joinBinary, Expr.joinAssign,
  Expr.shape, Expr.preorder, Expr.height
-/
import Abacus.Token

namespace Abacus

/-- An expression. The token of a `unary` or `binary` node is its operator, that
    of an `access` or `assign` node the name. -/
inductive Expr where
  | number (literal : Token)
  | access (name : Token)
  | unary (op : Token) (operand : Expr) (span : Span)
  | binary (op : Token) (left right : Expr) (span : Span)
  | assign (name : Token) (value : Expr) (span : Span)
deriving DecidableEq, Repr, Inhabited

namespace Expr

/-- The part of the source that the expression covers. -/
def span : Expr → Span
  | .number token | .access token => token.span
  | .unary _ _ span | .binary _ _ _ span | .assign _ _ span => span

/-- A sign before its operand, which covers both. -/
def joinUnary (op : Token) (operand : Expr) : Expr :=
  .unary op operand (op.span.merge operand.span)

/-- An operator between two operands, which covers all three. -/
def joinBinary (op : Token) (left right : Expr) : Expr :=
  .binary op left right (left.span.merge right.span)

/-- A binding, which covers everything from its keyword to the end of its value. -/
def joinAssign (keyword name : Token) (value : Expr) : Expr :=
  .assign name value (keyword.span.merge value.span)

@[simp] theorem span_number (token : Token) : (number token).span = token.span := rfl

@[simp] theorem span_access (token : Token) : (access token).span = token.span := rfl

@[simp] theorem span_joinUnary (op : Token) (operand : Expr) :
    (joinUnary op operand).span = op.span.merge operand.span := rfl

@[simp] theorem span_joinBinary (op : Token) (left right : Expr) :
    (joinBinary op left right).span = left.span.merge right.span := rfl

@[simp] theorem span_joinAssign (keyword name : Token) (value : Expr) :
    (joinAssign keyword name value).span = keyword.span.merge value.span := rfl

/-- The name that a token stands for: its text, and the empty name if it has
    none. -/
def nameOf (token : Token) : String :=
  token.text?.getD ""

/-- The text of the tree, in which every node but a leaf is in brackets and
    operators go by the names of their kinds. A literal without a payload and a
    name without a text show as a question mark. -/
def shape : Expr → String
  | .number literal =>
      match literal.payload? with
      | some payload => payload.display
      | none => "?"
  | .access name => name.text?.getD "?"
  | .unary op operand _ => "(" ++ op.kind.name ++ " " ++ operand.shape ++ ")"
  | .binary op left right _ =>
      "(" ++ left.shape ++ " " ++ op.kind.name ++ " " ++ right.shape ++ ")"
  | .assign name value _ =>
      "(let " ++ name.text?.getD "?" ++ " " ++ value.shape ++ ")"

/-- The name of the sort of node. -/
def sortName : Expr → String
  | .number _ => "number"
  | .access _ => "access"
  | .unary .. => "unary"
  | .binary .. => "binary"
  | .assign .. => "assign"

/-- The token that a node goes by. -/
def token : Expr → Token
  | .number token | .access token | .unary token _ _ | .binary token
    _ _ _ | .assign token _ _ => token

/-- The nodes of the tree with their depths, each before its operands and these
    from left to right. -/
def preorder (depth : Nat) : Expr → List (Nat × Expr)
  | e@(.number _) | e@(.access _) => [(depth, e)]
  | e@(.unary _ operand _) => (depth, e) :: operand.preorder (depth + 1)
  | e@(.binary _ left right _) =>
      (depth, e) :: (left.preorder (depth + 1) ++ right.preorder (depth + 1))
  | e@(.assign _ value _) => (depth, e) :: value.preorder (depth + 1)

/-- How many nodes the longest path from the root to a leaf has. -/
def height : Expr → Nat
  | .number _ | .access _ => 1
  | .unary _ operand _ => operand.height + 1
  | .binary _ left right _ => max left.height right.height + 1
  | .assign _ value _ => value.height + 1

end Expr

end Abacus
