/-
Module: Abacus.Diagnostic
Purpose: What can go wrong with a submission. Each fault is a cause, its wording
  is given by one function, and a diagnostic says where the fault was met and,
  for a fault of evaluation, in which contexts.
Main exports: LexicalFault, SyntaxFault, RuntimeFault, Frame, Diagnostic
-/
import Abacus.Token

namespace Abacus

/-- Why a text has no tokens. -/
inductive LexicalFault where
  | unexpectedCharacter (c : Char)
  | integerTooLarge (digits : String)
  | malformedNumber (text : String)
deriving DecidableEq, Repr, Inhabited

/-- Why tokens make no expression. -/
inductive SyntaxFault where
  | tooDeep
  | expectedOperand
  | unclosedBracket
  | expectedName
  | expectedAssignment
  | trailingTokens
deriving DecidableEq, Repr, Inhabited

/-- Why an expression has no value. The last two arise only for trees that no
    text denotes: a literal without a number, and a binary node whose token is
    no operator. A `raised` fault is worded by the embedding program. -/
inductive RuntimeFault where
  | unknownName (name : String)
  | arithmetic (fault : ArithmeticFault)
  | raised (message : String)
  | literalWithoutNumber
  | notAnOperator (kind : Kind)
deriving DecidableEq, Repr, Inhabited

/-- The wording of a lexical fault. -/
def LexicalFault.message : LexicalFault → String
  | .unexpectedCharacter c => "unexpected character '" ++ c.toString ++ "'"
  | .integerTooLarge digits => "integer literal '" ++ digits ++ "' is too large"
  | .malformedNumber text => "malformed number '" ++ text ++ "'"

/-- The wording of a syntax fault. -/
def SyntaxFault.message : SyntaxFault → String
  | .tooDeep => "expression nested too deeply"
  | .expectedOperand => "expecting a number, sign, or bracket"
  | .unclosedBracket => "missing ')'"
  | .expectedName => "identifier expected after let keyword"
  | .expectedAssignment => "assignment operator expected after identifier"
  | .trailingTokens => "expecting at least one operator"

/-- The wording of a fault of evaluation. -/
def RuntimeFault.message : RuntimeFault → String
  | .unknownName name => "unknown identifier '" ++ name ++ "'"
  | .arithmetic fault => fault.message
  | .raised message => message
  | .literalWithoutNumber => "literal carries no number"
  | .notAnOperator kind => "no operator is written " ++ kind.name

/-- One level of a traceback: the source and line being evaluated there, the
    line counted from one, and the name of the context. -/
structure Frame where
  label : String
  line : Nat
  context : String
deriving DecidableEq, Repr, Inhabited

/-- The sentence that reports a frame. -/
def Frame.display (frame : Frame) : String :=
  "In " ++ frame.label ++ ", at line " ++ toString frame.line ++
    ", in the context " ++ frame.context

/-- A fault and where it was met. Only evaluation has contexts, so only its
    faults have a traceback, the innermost context first. -/
inductive Diagnostic where
  | lexical (fault : LexicalFault) (span : Span)
  | grammatical (fault : SyntaxFault) (span : Span)
  | runtime (fault : RuntimeFault) (span : Span) (traceback : List Frame)
deriving DecidableEq, Repr, Inhabited

namespace Diagnostic

/-- Where the fault was met. -/
def span : Diagnostic → Span
  | .lexical _ span | .grammatical _ span | .runtime _ span _ => span

/-- The wording of the fault. -/
def message : Diagnostic → String
  | .lexical fault _ => fault.message
  | .grammatical fault _ => fault.message
  | .runtime fault _ _ => fault.message

/-- The sort of fault, as shown to a reader. -/
def kindName : Diagnostic → String
  | .lexical .. => "Lexical Error"
  | .grammatical .. => "Syntax Error"
  | .runtime .. => "Runtime Error"

/-- The contexts of a fault of evaluation; none for the other sorts. -/
def traceback : Diagnostic → List Frame
  | .runtime _ _ traceback => traceback
  | _ => []

/-- The diagnostic on one line. -/
def display (d : Diagnostic) : String :=
  d.kindName ++ ": " ++ d.message

end Diagnostic

end Abacus
