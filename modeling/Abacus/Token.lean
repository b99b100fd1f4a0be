/-
Module: Abacus.Token
Purpose: Tokens: a kind, the value or text that tokens of some kinds carry, and
  where the token stands. A payload is not tied to a kind, since tokens may also
  be put together by an embedding program.
Main exports: Kind, Kind.ofChar?, Payload, Token, Token.sameAs, Token.display,
  Token.isKeyword
-/
import Abacus.Number

namespace Abacus

/-- What a token is. -/
inductive Kind where
  | integer
  | float
  | plus
  | minus
  | multiply
  | divide
  | power
  | leftParen
  | rightParen
  | identifier
  | keyword
  | assignment
  | endOfInput
deriving DecidableEq, Repr, Inhabited

namespace Kind

/-- The name of the kind. -/
def name : Kind → String
  | .integer => "Integer"
  | .float => "Float"
  | .plus => "Plus"
  | .minus => "Minus"
  | .multiply => "Multiply"
  | .divide => "Divide"
  | .power => "Power"
  | .leftParen => "LeftParen"
  | .rightParen => "RightParen"
  | .identifier => "Identifier"
  | .keyword => "Keyword"
  | .assignment => "Assignment"
  | .endOfInput => "EndOfInput"

/-- Every kind, in the order of declaration. -/
def all : List Kind :=
  [.integer, .float, .plus, .minus, .multiply, .divide, .power, .leftParen,
    .rightParen, .identifier,
    .keyword, .assignment, .endOfInput]

/-- The kind with a given name. -/
def ofName? (name : String) : Option Kind :=
  all.find? (·.name == name)

/-- The kind of an operator or bracket, each of which is one character. -/
def ofChar? : Char → Option Kind
  | '+' => some .plus
  | '-' => some .minus
  | '*' => some .multiply
  | '/' => some .divide
  | '^' => some .power
  | '(' => some .leftParen
  | ')' => some .rightParen
  | _ => none

/-- The operator that a kind of token writes between two operands. -/
def operator? : Kind → Option Operator
  | .plus => some .add
  | .minus => some .subtract
  | .multiply => some .multiply
  | .divide => some .divide
  | .power => some .power
  | _ => none

/-- Every operator is written by one kind of token. -/
theorem operator?_injective {kind kind' : Kind} {operator : Operator}
    (written : kind.operator? = some operator)
    (written' : kind'.operator? = some operator) : kind = kind' := by
  cases kind <;> cases written <;> cases kind' <;> first | rfl | cases written'

/-- Every kind can be found by its name, so no two kinds share one. -/
theorem ofName?_name (kind : Kind) : ofName? kind.name = some kind := by
  cases kind <;> decide

end Kind

/-- What a token carries: the value of a literal, or the text of a word or an
    assignment sign. -/
inductive Payload where
  | int (value : Int64)
  | float (value : Float)
  | text (value : String)
deriving DecidableEq, Repr, Inhabited

namespace Payload

/-- The payload as text. -/
def display : Payload → String
  | .int i => (Value.int i).text
  | .float x => (Value.float x).text
  | .text s => s

/-- The name of the sort of payload. -/
def sortName : Payload → String
  | .int _ => "Int"
  | .float _ => "Float"
  | .text _ => "Text"

/-- Equality of payloads of the same sort; doubles compare as numbers. -/
def sameAs : Payload → Payload → Bool
  | .int i, .int j => i == j
  | .float x, .float y => x == y
  | .text s, .text t => s == t
  | _, _ => false

/-- The value of a numeric payload. -/
def value? : Payload → Option Value
  | .int i => some (.int i)
  | .float x => some (.float x)
  | .text _ => none

end Payload

/-- A token and where it stands. -/
structure Token where
  kind : Kind
  payload? : Option Payload := none
  span : Span
deriving DecidableEq, Repr, Inhabited

namespace Token

/-- The text a token carries, if it carries one. -/
def text? (token : Token) : Option String :=
  match token.payload? with
  | some (.text s) => some s
  | _ => none

/-- Whether the token is the keyword `word`. -/
def isKeyword (token : Token) (word : String) : Bool :=
  token.kind == .keyword && token.text? == some word

/-- Equality of kind and payload. Where a token stands plays no part. -/
def sameAs (a b : Token) : Bool :=
  a.kind == b.kind &&
    match a.payload?, b.payload? with
    | none, none => true
    | some p, some q => p.sameAs q
    | _, _ => false

/-- The kind of a token, followed by its payload if it has one. -/
def display (token : Token) : String :=
  match token.payload? with
  | some payload => token.kind.name ++ ": " ++ payload.display
  | none => token.kind.name

end Token

end Abacus
