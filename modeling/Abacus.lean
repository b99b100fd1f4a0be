import Abacus.Source
import Abacus.Text.Alphabetic
import Abacus.Text.Numeric
import Abacus.Text.Blank
import Abacus.Text.Casing
import Abacus.Decimal.Layout
import Abacus.Text.LowerCase
import Abacus.Arithmetic
import Abacus.Number
import Abacus.Diagnostic
import Abacus.Lexeme
import Abacus.Token.Lexer
import Abacus.Expr
import Abacus.Expr.Parser
import Abacus.Context
import Abacus.Environment
import Abacus.Evaluation
import Abacus.Program
import Abacus.Json
import Abacus.Json.Reader
import Abacus.Feedback
import Abacus.CommandLine
import Abacus.Session
import Abacus.Main
import Abacus.Proofs.Grammar
import Abacus.Proofs.ParserAgreement
import Abacus.Proofs.TreeHeight
import Abacus.Proofs.FailedRun
import Abacus.Proofs.PostOrder
import Abacus.Proofs.Lexemes
import Abacus.Proofs.Tiling
import Abacus.Proofs.ExactIntegers
import Abacus.Proofs.ParserFaults
import Abacus.Proofs.OffendingToken
import Abacus.Proofs.SourceTree
import Abacus.Proofs.Blame
import Abacus.Proofs.Bindings
import Abacus.Proofs.Coincidence
import Abacus.Proofs.Cursor
import Abacus.Proofs.Histories
import Abacus.Proofs.CursorAgreement
import Abacus.Proofs.SafeSubmission
import Abacus.Proofs.Limits
import Abacus.Proofs.JsonText
import Abacus.Proofs.JsonRecords
import Abacus.Proofs.Lines
import Abacus.Proofs.Transcript
import Abacus.Proofs.Relocation
import Abacus.Proofs.LetterCase
import Abacus.Proofs.Boundaries
import Abacus.Proofs.Unreadable
import Abacus.Proofs.SourceOrder
import Abacus.Proofs.Excerpt
import Abacus.Proofs.Contexts
import Abacus.Proofs.PrintedIntegers
import Abacus.Proofs.Remedies
import Abacus.Proofs.Names
import Abacus.Proofs.ShapeText
import Abacus.Proofs.CallCounters
