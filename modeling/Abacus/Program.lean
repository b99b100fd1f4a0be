/-
Module: Abacus.Program
Purpose: Submissions: a source is divided into tokens, parsed, and evaluated
  against an environment. The first stage that fails decides the outcome, and
  only evaluation changes the environment. Each stage leaves a record in the
  log.
Main exports: LogRecord, LogRecord.line, Run, evaluateIn, run
-/
import Abacus.Evaluation
import Abacus.Expr.Parser

namespace Abacus

/-- What the log tells about a submission. -/
inductive LogRecord where
  | tokenized (label : String) (count : Nat)
  | parsed (tree : Expr)
  | evaluated (event : Event)
  | finished (label : String) (tree : Expr) (result : Number)
deriving DecidableEq, Repr, Inhabited

/-- A record as a line, its level first. The steps of an evaluation are of the
    more detailed level. -/
def LogRecord.line : LogRecord → String
  | .tokenized label count =>
      "DEBUG " ++ label ++ ": " ++ toString count ++ " tokens"
  | .parsed tree => "DEBUG parsed " ++ tree.shape
  | .evaluated (.computed node result) =>
      "TRACE " ++ node.shape ++ " = " ++ result.text
  | .evaluated (.bound name value) => "TRACE bind " ++ name ++ " = " ++ value.text
  | .finished label tree result =>
      "DEBUG " ++ label ++ ": " ++ tree.shape ++ " => " ++ result.text

/-- What a submission came to: its outcome, the bindings it left, and its log. -/
structure Run where
  outcome : Except Diagnostic Number
  environment : Environment
  log : List LogRecord

/-- Evaluates an expression against an environment, in a context. -/
def evaluateIn (context : Context) (tree : Expr) (environment : Environment) : Run :=
  let (outcome, machine) := evaluate context tree { environment }
  { outcome, environment := machine.environment, log := machine.journal.map .evaluated }

/-- Runs a submission against an environment, in the context of a whole program. -/
def run (source : Source) (environment : Environment) : Run :=
  match source.tokens with
  | .error diagnostic => { outcome := .error diagnostic, environment, log := [] }
  | .ok tokens =>
      let tokenized := LogRecord.tokenized source.label tokens.length
      match Expr.ofTokens tokens with
      | .error diagnostic =>
          { outcome := .error diagnostic, environment, log := [tokenized] }
      | .ok tree =>
          let evaluation := evaluateIn .program tree environment
          let finished :=
            match evaluation.outcome with
            | .ok result => [LogRecord.finished source.label tree result]
            | .error _ => []
          { evaluation with
            log := tokenized :: .parsed tree :: evaluation.log ++ finished }

end Abacus
