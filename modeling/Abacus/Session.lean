/-
Module: Abacus.Session
Purpose: Sessions: an embedding program runs submissions, looks at the bindings
  and changes them, and enters and leaves nested scopes. A scope is entered
  together with a context, so an open scope and the context it was entered in
  are left together.
Main exports: Session, Session.Command, Session.Reply, Session.perform,
  Session.closing
-/
import Abacus.Program

namespace Abacus

/-- The bindings and the context of a session. -/
structure Session where
  environment : Environment := .empty
  context : Context := .program
deriving DecidableEq, Repr, Inhabited

namespace Session

/-- What an embedding program can ask for. -/
inductive Command where
  | run (source : Source)
  | evaluate (source : Source)
  | get (name : String)
  | set (name : String) (value : Value)
  | remove (name : String)
  | contains (name : String)
  | outerSize
  | raise (message : String) (span : Span)
  | push (context : String) (entry : Span)
  | pop
deriving DecidableEq, Repr, Inhabited

/-- What a session answers. -/
inductive Reply where
  | outcome (result : Except Diagnostic Number)
  | binding (number? : Option Number)
  | truth (holds : Bool)
  | size (size? : Option Nat)
  | done
  | popped
  | atRoot
deriving Inhabited

/-- A session that starts in a context of the given name. -/
def start (context : String) : Session where
  context := .root context

/-- Evaluates a source in the current context. -/
def evaluateSource (session : Session) (source : Source) :
    Except Diagnostic Number × Environment :=
  match Expr.ofSource source with
  | .error diagnostic => (.error diagnostic, session.environment)
  | .ok tree =>
      let result := evaluateIn session.context tree session.environment
      (result.outcome, result.environment)

/-- Leaves the innermost scope and its context; `none` in the outermost one. -/
def pop? (session : Session) : Option Session :=
  match session.environment.pop?, session.context with
  | some environment, .nested _ _ caller => some { environment, context := caller }
  | _, _ => none

/-- Carries out a command. -/
def perform (session : Session) : Command → Reply × Session
  | .run source =>
      let result := Abacus.run source session.environment
      (.outcome result.outcome, { session with environment := result.environment })
  | .evaluate source =>
      let (outcome, environment) := session.evaluateSource source
      (.outcome outcome, { session with environment })
  | .get name => (.binding (session.environment.get? name), session)
  | .set name value =>
      (.done, { session with environment := session.environment.set name { value } })
  | .remove name =>
      (.binding (session.environment.scope.get? name),
        { session with environment := session.environment.remove name })
  | .contains name => (.truth (session.environment.contains name), session)
  | .outerSize => (.size (session.environment.outer.head?.map Scope.size), session)
  | .raise message span =>
      (.outcome (.error (session.context.fault (.raised message) span)), session)
  | .push context entry =>
      (.done,
        { environment := session.environment.push
          context := .nested context entry session.context })
  | .pop =>
      match session.pop? with
      | some session => (.popped, session)
      | none => (.atRoot, session)

/-- The replies to a list of commands, each with the session after it, and the
    session at the end. -/
def performAll (session : Session) : List Command → List (Reply × Session) × Session
  | [] => ([], session)
  | command :: commands =>
      let (reply, session) := session.perform command
      let (replies, last) := session.performAll commands
      ((reply, session) :: replies, last)

/-- The replies to leaving every scope that is still open around `scope`, from
    the inside out. -/
def leaveScopes (context : Context) : List Scope → List (Reply × Session)
  | [] => []
  | scope :: outer =>
      let caller :=
        match context with
        | .nested _ _ caller => caller
        | root => root
      (.popped, { environment := { scope, outer }, context := caller }) ::
        leaveScopes caller outer

/-- The replies to leaving every scope that is still open, from the inside out. -/
def closing (session : Session) : List (Reply × Session) :=
  leaveScopes session.context session.environment.outer

/-- The replies to a list of commands, followed by those to leaving every scope
    that is still open. -/
def transcript (session : Session) (commands : List Command) :
    List (Reply × Session) :=
  let (replies, last) := session.performAll commands
  replies ++ last.closing

end Session

end Abacus
