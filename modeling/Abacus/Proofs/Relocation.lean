/-
Module: Abacus.Proofs.Relocation
Purpose: What the stages after the division into tokens make of the sources that
  spans lie in: they carry them along and never look into them. If all the spans
  of the tokens, or of a tree and of what is bound, are put into other sources,
  then what comes out is the same but for the sources in its spans; for
  evaluation the sources have to keep their names, which tracebacks show.
Main exports: Expr.mapSource, Environment.mapSource, Diagnostic.mapSource,
  ofTokens_mapSource, evaluate_mapSource, run_eq_of_tokens
-/
import Abacus.Proofs.FailedRun
import Abacus.Proofs.ParserAgreement

namespace Abacus

/-!
### Other sources

`move` gives for each source the one that takes its place.
-/

/-- The same stretch in another source. -/
def Span.mapSource (move : Source → Source) (span : Span) : Span :=
  { span with source := move span.source }

/-- The same token in another source. -/
def Token.mapSource (move : Source → Source) (token : Token) : Token :=
  { token with span := token.span.mapSource move }

/-- The same tree over other sources. -/
def Expr.mapSource (move : Source → Source) : Expr → Expr
  | .number literal => .number (literal.mapSource move)
  | .access name => .access (name.mapSource move)
  | .unary op operand span =>
      .unary (op.mapSource move) (operand.mapSource move) (span.mapSource move)
  | .binary op left right span =>
      .binary (op.mapSource move) (left.mapSource move) (right.mapSource move)
        (span.mapSource move)
  | .assign name value span =>
      .assign (name.mapSource move) (value.mapSource move) (span.mapSource move)

/-- The same value, placed in another source. -/
def Number.mapSource (move : Source → Source) (x : Number) : Number :=
  { x with span? := x.span?.map (Span.mapSource move) }

/-- The same diagnostic of another source. -/
def Diagnostic.mapSource (move : Source → Source) : Diagnostic → Diagnostic
  | .lexical fault span => .lexical fault (span.mapSource move)
  | .grammatical fault span => .grammatical fault (span.mapSource move)
  | .runtime fault span traceback => .runtime fault (span.mapSource move) traceback

/-- An outcome whose result and whose diagnostic lie in other sources. -/
def moveOutcome {α : Type} (move : Source → Source) (moveResult : α → α) :
    Except Diagnostic α → Except Diagnostic α
  | .ok result => .ok (moveResult result)
  | .error diagnostic => .error (diagnostic.mapSource move)

section

variable (move : Source → Source)

@[simp] theorem Span.start_mapSource (span : Span) :
    (span.mapSource move).start = span.start := rfl

@[simp] theorem Span.stop_mapSource (span : Span) :
    (span.mapSource move).stop = span.stop := rfl

@[simp] theorem Span.mapSource_merge (first second : Span) :
    (first.merge second).mapSource move =
      (first.mapSource move).merge (second.mapSource move) := rfl

@[simp] theorem Token.kind_mapSource (token : Token) :
    (token.mapSource move).kind = token.kind := rfl

@[simp] theorem Token.payload?_mapSource (token : Token) :
    (token.mapSource move).payload? = token.payload? := rfl

@[simp] theorem Token.span_mapSource (token : Token) :
    (token.mapSource move).span = token.span.mapSource move := rfl

@[simp] theorem Token.isKeyword_mapSource (token : Token) (word : String) :
    (token.mapSource move).isKeyword word = token.isKeyword word := rfl

@[simp] theorem Expr.nameOf_mapSource (name : Token) :
    Expr.nameOf (name.mapSource move) = Expr.nameOf name := rfl

@[simp] theorem Expr.span_mapSource (e : Expr) :
    (e.mapSource move).span = e.span.mapSource move := by
  cases e <;> rfl

@[simp] theorem Number.value_mapSource (x : Number) :
    (x.mapSource move).value = x.value := rfl

@[simp] theorem Number.placedAt_mapSource (x : Number) (span : Span) :
    (x.mapSource move).placedAt (span.mapSource move) =
      (x.placedAt span).mapSource move := rfl

@[simp] theorem Diagnostic.kindName_mapSource (diagnostic : Diagnostic) :
    (diagnostic.mapSource move).kindName = diagnostic.kindName := by
  cases diagnostic <;> rfl

@[simp] theorem Diagnostic.message_mapSource (diagnostic : Diagnostic) :
    (diagnostic.mapSource move).message = diagnostic.message := by
  cases diagnostic <;> rfl

@[simp] theorem Diagnostic.span_mapSource (diagnostic : Diagnostic) :
    (diagnostic.mapSource move).span = diagnostic.span.mapSource move := by
  cases diagnostic <;> rfl

@[simp] theorem Diagnostic.traceback_mapSource (diagnostic : Diagnostic) :
    (diagnostic.mapSource move).traceback = diagnostic.traceback := by
  cases diagnostic <;> rfl

@[simp] theorem Expr.joinUnary_mapSource (op : Token) (operand : Expr) :
    Expr.joinUnary (op.mapSource move) (operand.mapSource move) =
      (Expr.joinUnary op operand).mapSource move := by
  simp [Expr.joinUnary, Expr.mapSource]

@[simp] theorem Expr.joinBinary_mapSource (op : Token) (left right : Expr) :
    Expr.joinBinary (op.mapSource move) (left.mapSource move) (right.mapSource move) =
      (Expr.joinBinary op left right).mapSource move := by
  simp [Expr.joinBinary, Expr.mapSource]

@[simp] theorem Expr.joinAssign_mapSource (keyword name : Token) (value : Expr) :
    Expr.joinAssign (keyword.mapSource move) (name.mapSource move)
      (value.mapSource move) =
      (Expr.joinAssign keyword name value).mapSource move := by
  simp [Expr.joinAssign, Expr.mapSource]

end

/-!
### Parsing

The parser looks at the kinds and payloads of tokens and merges their spans, so
it takes no notice of the sources that these lie in. `Carries` says so of a
routine; the lemmas follow the routines, and the two that call one another are
done together, by induction on the levels.
-/

namespace Expr.Parser

variable {move : Source → Source}

/-- The same failure of tokens in other sources. -/
def Failure.mapSource (move : Source → Source) (failure : Failure) : Failure :=
  { failure with ahead := failure.ahead.map (Token.mapSource move) }

/-- What a routine has read, and the tokens that are left, in other sources. -/
def carry {α : Type} (move : Source → Source) (moveResult : α → α) :
    Except Failure (α × List Token) → Except Failure (α × List Token)
  | .ok (result, rest) => .ok (moveResult result, rest.map (Token.mapSource move))
  | .error failure => .error (failure.mapSource move)

/-- The routine takes no notice of the sources of the tokens it reads. -/
def Carries (move : Source → Source) (parse : Parse) : Prop :=
  ∀ tokens : List Token,
    parse (tokens.map (Token.mapSource move)) =
      carry move (Expr.mapSource move) (parse tokens)

/-- Two routines after one another take no notice of the sources if neither
    does. -/
theorem carry_bind {α β : Type} {moveFirst : α → α} {moveSecond : β → β}
    {first first' : Except Failure (α × List Token)}
    {next next' : α × List Token → Except Failure (β × List Token)}
    (begins : first' = carry move moveFirst first)
    (goesOn : ∀ result rest,
      next' (moveFirst result, rest.map (Token.mapSource move)) =
        carry move moveSecond (next (result, rest))) :
    first'.bind next' = carry move moveSecond (first.bind next) := by
  subst begins
  cases first with
  | error failure => rfl
  | ok read => exact goesOn read.1 read.2

theorem carry_expect {test : Token → Bool}
    (blind : ∀ token : Token, test (token.mapSource move) = test token)
    (fault : SyntaxFault) (tokens : List Token) :
    expect test fault (tokens.map (Token.mapSource move)) =
      carry move (Token.mapSource move) (expect test fault tokens) := by
  cases tokens with
  | nil => rfl
  | cons token rest =>
      rw [List.map_cons, expect, expect, blind]
      cases test token <;> rfl

/-- The rest of a chain, by induction on the height that is left for it. -/
theorem carry_chainRest {isOperator : Token → Bool} {operand : Nat → Parse}
    (blind : ∀ token : Token, isOperator (token.mapSource move) = isOperator token)
    (operands : ∀ height, Carries move (operand height)) (height : Nat)
    (left : Expr) (tokens : List Token) :
    chainRest isOperator operand height (left.mapSource move)
      (tokens.map (Token.mapSource move)) =
      carry move (Expr.mapSource move)
        (chainRest isOperator operand height left tokens) := by
  induction height generalizing left tokens with
  | zero =>
      cases tokens with
      | nil => rfl
      | cons op rest =>
          rw [List.map_cons, chainRest, chainRest, blind]
          cases isOperator op <;> rfl
  | succ height inductionHypothesis =>
      cases tokens with
      | nil => rfl
      | cons op rest =>
          rw [List.map_cons]
          cases joins : isOperator op with
          | false =>
              rw [chainRest, chainRest, blind, joins]
              rfl
          | true =>
              have joins' : isOperator (op.mapSource move) = true :=
                (blind op).trans joins
              rw [Grammar.chainRest_succ operand height _ joins',
                Grammar.chainRest_succ operand height _ joins]
              apply carry_bind (operands height rest)
              intro right rest
              dsimp only
              rw [Expr.joinBinary_mapSource]
              exact inductionHypothesis _ rest

theorem carries_chain {isOperator : Token → Bool} {operand : Nat → Parse}
    (blind : ∀ token : Token, isOperator (token.mapSource move) = isOperator token)
    (operands : ∀ height, Carries move (operand height)) (height : Nat) :
    Carries move (chain isOperator operand height) := by
  intro tokens
  apply carry_bind (operands height tokens)
  intro left rest
  exact carry_chainRest blind operands height left rest

section

variable {factor value expr : Nat → Parse}
    (factors : ∀ height, Carries move (factor height))
    (values : ∀ height, Carries move (value height))
    (exprs : ∀ height, Carries move (expr height))

include factors

theorem carries_sumWith (height : Nat) : Carries move (sumWith factor height) :=
  carries_chain (fun _ => rfl) (carries_chain (fun _ => rfl) factors) height

omit factors
include values

theorem carry_bindingWith (height : Nat) (keyword : Token) (tokens : List Token) :
    bindingWith value height (keyword.mapSource move)
      (tokens.map (Token.mapSource move)) =
      carry move (Expr.mapSource move) (bindingWith value height keyword tokens) := by
  apply carry_bind (carry_expect (fun _ => rfl) .expectedName tokens)
  intro name rest
  apply carry_bind (carry_expect (fun _ => rfl) .expectedAssignment rest)
  intro sign rest
  apply carry_bind (values height rest)
  intro bound rest
  dsimp only
  rw [Expr.joinAssign_mapSource]
  rfl

include factors

theorem carries_exprWith (height : Nat) :
    Carries move (exprWith factor value height) := by
  intro tokens
  cases tokens with
  | nil => exact carries_sumWith factors height []
  | cons token rest =>
      rw [List.map_cons, exprWith, exprWith, Token.isKeyword_mapSource]
      cases token.isKeyword "let" with
      | true => exact carry_bindingWith values height token rest
      | false => exact carries_sumWith factors height (token :: rest)

omit factors values
include exprs

theorem carries_atomWith (height : Nat) : Carries move (atomWith expr height) := by
  intro tokens
  cases tokens with
  | nil => rfl
  | cons token rest =>
      rw [List.map_cons, atomWith, atomWith, Token.kind_mapSource]
      split
      case h_4 =>
        apply carry_bind (exprs height rest)
        intro inner rest
        apply carry_bind (carry_expect (fun _ => rfl) .unclosedBracket rest)
        intro closing rest
        rfl
      all_goals rfl

include factors

theorem carries_powerWith (height : Nat) :
    Carries move (powerWith factor expr height) := by
  intro tokens
  apply carry_bind (carries_atomWith exprs height tokens)
  intro base rest
  exact carry_chainRest (fun _ => rfl) factors height base rest

theorem carries_factorWith (height : Nat) :
    Carries move (factorWith factor expr height) := by
  intro tokens
  cases tokens with
  | nil => exact carries_powerWith factors exprs height []
  | cons token rest =>
      have blind : isSign (token.mapSource move) = isSign token := rfl
      rw [List.map_cons, factorWith, factorWith, blind]
      cases isSign token with
      | false => exact carries_powerWith factors exprs height (token :: rest)
      | true =>
          apply carry_bind (factors height rest)
          intro operand rest
          dsimp only
          rw [Expr.joinUnary_mapSource]
          rfl

end

/-- Factors and values of bindings, by induction on the levels that are left for
    them. -/
theorem carries_nested (levels : Nat) :
    (∀ height, Carries move (factor levels height)) ∧
      ∀ height, Carries move (value levels height) := by
  induction levels with
  | zero => exact ⟨fun height tokens => rfl, fun height tokens => rfl⟩
  | succ levels inductionHypothesis =>
      obtain ⟨factors, values⟩ := inductionHypothesis
      constructor
      · intro height
        cases height with
        | zero => exact fun tokens => rfl
        | succ height =>
            exact carries_factorWith factors (carries_exprWith factors values) height
      · intro height
        cases height with
        | zero => exact fun tokens => rfl
        | succ height => exact carries_exprWith factors values height

/-- An expression is read as it is, whatever sources its tokens lie in. -/
theorem carries_expr (levels height : Nat) : Carries move (expr levels height) :=
  carries_exprWith (carries_nested levels).1 (carries_nested levels).2 height

end Expr.Parser

section

variable {move : Source → Source}

theorem beforeEnd_mapSource (tokens : List Token) :
    Token.beforeEnd (tokens.map (Token.mapSource move)) =
      (Token.beforeEnd tokens).map (Token.mapSource move) :=
  List.takeWhile_map

/-- The end of the input moves with the tokens, if there are any. -/
theorem endSpan_mapSource {tokens : List Token} (nonempty : tokens ≠ []) :
    Token.endSpan (tokens.map (Token.mapSource move)) =
      (Token.endSpan tokens).mapSource move := by
  have sameTest : ((·.kind == .endOfInput) ∘ Token.mapSource move) =
      fun token : Token => token.kind == .endOfInput :=
    rfl
  unfold Token.endSpan
  rw [List.find?_map, sameTest]
  cases tokens.find? (·.kind == .endOfInput) with
  | some stop => rfl
  | none =>
      rw [Option.map_none, List.getLast?_map]
      cases last : tokens.getLast? with
      | none => exact absurd (List.getLast?_eq_none_iff.mp last) nonempty
      | some token => rfl

/-- The whole of the tokens is read as it is, whatever sources they lie in. -/
theorem whole_mapSource (levels height : Nat) (tokens : List Token) :
    Expr.Parser.whole levels height (tokens.map (Token.mapSource move)) =
      ((Expr.Parser.whole levels height tokens).map (Expr.mapSource move)).mapError
        (·.mapSource move) := by
  unfold Expr.Parser.whole
  rw [Expr.Parser.carries_expr levels height tokens]
  cases Expr.Parser.expr levels height tokens with
  | error failure => rfl
  | ok read =>
      obtain ⟨e, rest⟩ := read
      cases rest with
      | nil => rfl
      | cons token rest => rfl

theorem diagnostic_mapSource (failure : Expr.Parser.Failure) (stop : Span) :
    (failure.mapSource move).diagnostic (stop.mapSource move) =
      (failure.diagnostic stop).mapSource move := by
  obtain ⟨fault, ahead⟩ := failure
  cases ahead <;> rfl

/-- The expression that tokens write is the same wherever they lie, and so is
    the place of a syntax fault. -/
theorem ofTokens_mapSource {tokens : List Token} (nonempty : tokens ≠ []) :
    Expr.ofTokens (tokens.map (Token.mapSource move)) =
      moveOutcome move (Expr.mapSource move) (Expr.ofTokens tokens) := by
  unfold Expr.ofTokens
  rw [beforeEnd_mapSource, endSpan_mapSource nonempty, whole_mapSource]
  cases Expr.Parser.whole greatestNesting greatestHeight (Token.beforeEnd tokens) with
  | ok tree => rfl
  | error failure => exact congrArg Except.error (diagnostic_mapSource failure _)

end

/-!
### Bindings

An environment whose numbers are placed in other sources. Lookups and writes go
by names, so they can be done before or after the change of sources.
-/

/-- The same bindings of names to numbers that are placed in other sources. -/
def moveBindings (move : Source → Source) (bindings : List (String × Number)) :
    List (String × Number) :=
  bindings.map fun (name, x) => (name, x.mapSource move)

/-- The same scope with numbers that are placed in other sources. -/
def Scope.mapSource (move : Source → Source) (scope : Scope) : Scope where
  bindings := moveBindings move scope.bindings
  distinct := by
    have names : (moveBindings move scope.bindings).map Prod.fst =
        scope.bindings.map Prod.fst := by
      simp [moveBindings]
    rw [names]
    exact scope.distinct

/-- The same environment with numbers that are placed in other sources. -/
def Environment.mapSource (move : Source → Source) (environment : Environment) :
    Environment where
  scope := environment.scope.mapSource move
  outer := environment.outer.map (Scope.mapSource move)

/-- The same event in other sources. -/
def Event.mapSource (move : Source → Source) : Event → Event
  | .computed node result => .computed (node.mapSource move) (result.mapSource move)
  | .bound name value => .bound name (value.mapSource move)

/-- The same machine over other sources. -/
def Machine.mapSource (move : Source → Source) (machine : Machine) : Machine where
  environment := machine.environment.mapSource move
  journal := machine.journal.map (Event.mapSource move)

section

variable {move : Source → Source}

theorem Scope.ext_bindings {first second : Scope}
    (same : first.bindings = second.bindings) : first = second := by
  cases first
  cases second
  cases same
  rfl

theorem numberOf?_moveBindings (name : String) (bindings : List (String × Number)) :
    numberOf? name (moveBindings move bindings) =
      (numberOf? name bindings).map (Number.mapSource move) := by
  induction bindings with
  | nil => rfl
  | cons binding bindings inductionHypothesis =>
      change
        (if binding.1 = name then _
          else numberOf? name (moveBindings move bindings)) = _
      rw [numberOf?, inductionHypothesis]
      split <;> rfl

theorem bindName_moveBindings (name : String) (x : Number)
    (bindings : List (String × Number)) :
    bindName name (x.mapSource move) (moveBindings move bindings) =
      moveBindings move (bindName name x bindings) := by
  induction bindings with
  | nil => rfl
  | cons binding bindings inductionHypothesis =>
      change
        (if binding.1 = name then _
          else _ :: bindName name (x.mapSource move) (moveBindings move bindings)) = _
      rw [bindName, inductionHypothesis]
      split <;> rfl

/-- A name means the same number, placed in another source. -/
theorem Environment.get?_mapSource (environment : Environment) (name : String) :
    (environment.mapSource move).get? name =
      (environment.get? name).map (Number.mapSource move) := by
  have scopes : (environment.mapSource move).scopes =
      environment.scopes.map (Scope.mapSource move) := rfl
  have eachScope : (fun scope : Scope => (scope.mapSource move).get? name) =
      fun scope => (scope.get? name).map (Number.mapSource move) :=
    funext fun scope => numberOf?_moveBindings name scope.bindings
  unfold Environment.get?
  rw [scopes, List.findSome?_map]
  exact (congrArg (environment.scopes.findSome? ·) eachScope).trans
    (List.map_findSome? ..).symm

theorem Environment.set_mapSource (environment : Environment) (name : String)
    (x : Number) :
    (environment.mapSource move).set name (x.mapSource move) =
      (environment.set name x).mapSource move := by
  have sameScope : (environment.scope.mapSource move).set name (x.mapSource move) =
      (environment.scope.set name x).mapSource move :=
    Scope.ext_bindings (bindName_moveBindings name x environment.scope.bindings)
  exact congrArg
    (Environment.mk · (environment.outer.map (Scope.mapSource move))) sameScope

theorem Machine.note_mapSource (machine : Machine) (event : Event) :
    (machine.mapSource move).note (event.mapSource move) =
      (machine.note event).mapSource move := by
  simp [Machine.note, Machine.mapSource]

theorem Machine.bind_mapSource (machine : Machine) (name : String) (x : Number) :
    (machine.mapSource move).bind name (x.mapSource move) =
      (machine.bind name x).mapSource move := by
  have noted : (machine.mapSource move).note (.bound name (x.mapSource move)) =
      (machine.note (.bound name x)).mapSource move :=
    machine.note_mapSource (.bound name x)
  unfold Machine.bind
  rw [noted]
  exact congrArg (Machine.mk · _) (machine.environment.set_mapSource name x)

/-!
### Evaluation

Faults show the names of sources in their tracebacks, so these have to stay;
besides that, evaluation carries spans along. One lemma for each sort of node,
then an induction on the tree.
-/

variable (keeps : ∀ source, (move source).label = source.label)

include keeps

/-- A traceback shows no more of a source than its name. -/
theorem traceback_mapSource (context : Context) (span : Span) :
    context.traceback (span.mapSource move) = context.traceback span := by
  have sameFrame (name : String) :
      Context.frameAt name (span.mapSource move) = Context.frameAt name span := by
    unfold Context.frameAt
    rw [Span.mapSource, keeps]
  cases context with
  | root name => rw [Context.traceback, Context.traceback, sameFrame]
  | nested name entry caller => rw [Context.traceback, Context.traceback, sameFrame]

theorem fault_mapSource (context : Context) (fault : RuntimeFault) (span : Span) :
    context.fault fault (span.mapSource move) =
      (context.fault fault span).mapSource move := by
  rw [Context.fault, Context.fault, traceback_mapSource keeps]
  rfl

theorem literalNumber_mapSource (context : Context) (literal : Token) :
    literalNumber context (literal.mapSource move) =
      moveOutcome move (Number.mapSource move) (literalNumber context literal) := by
  unfold literalNumber
  rw [Token.payload?_mapSource]
  cases literal.payload?.bind Payload.value? with
  | some value => rfl
  | none =>
      exact congrArg Except.error (fault_mapSource keeps context _ literal.span)

theorem lookUp_mapSource (context : Context) (environment : Environment)
    (name : Token) :
    lookUp context (environment.mapSource move) (name.mapSource move) =
      moveOutcome move (Number.mapSource move) (lookUp context environment name) := by
  unfold lookUp
  rw [Expr.nameOf_mapSource, Environment.get?_mapSource]
  cases environment.get? (Expr.nameOf name) with
  | some x => rfl
  | none => exact congrArg Except.error (fault_mapSource keeps context _ name.span)

theorem applyOperator_mapSource (context : Context) (op : Token) (x y : Number)
    (span : Span) :
    applyOperator context (op.mapSource move) (x.mapSource move)
      (y.mapSource move) (span.mapSource move) =
      moveOutcome move (Number.mapSource move) (applyOperator context op x y span) := by
  unfold applyOperator Number.apply
  rw [Token.kind_mapSource]
  cases op.kind.operator? with
  | none => exact congrArg Except.error (fault_mapSource keeps context _ span)
  | some operator =>
      dsimp only [Number.value_mapSource]
      cases x.value.apply operator y.value with
      | ok value => rfl
      | error fault =>
          have blamed :
              (y.span?.map (Span.mapSource move)).getD (span.mapSource move) =
                (y.span?.getD span).mapSource move := by
            cases y.span? <;> rfl
          dsimp only [Number.mapSource]
          rw [blamed]
          exact congrArg Except.error (fault_mapSource keeps context _ _)

/-- What a tree comes to, and what it binds, is the same whatever sources it
    lies in, as long as these have the same names. By induction on the tree. -/
theorem evaluate_mapSource (context : Context) (e : Expr) (machine : Machine) :
    evaluate context (e.mapSource move) (machine.mapSource move) =
      (moveOutcome move (Number.mapSource move) (evaluate context e machine).1,
        (evaluate context e machine).2.mapSource move) := by
  induction e generalizing machine with
  | number literal =>
      exact congrArg (·, machine.mapSource move)
        (literalNumber_mapSource keeps context literal)
  | access name =>
      exact congrArg (·, machine.mapSource move)
        (lookUp_mapSource keeps context machine.environment name)
  | unary op operand span inner =>
      rw [Expr.mapSource, evaluate, evaluate, inner]
      rcases evaluate context operand machine with ⟨diagnostic | x, after⟩
      · rfl
      · rfl
  | binary op left right span inLeft inRight =>
      rw [Expr.mapSource, evaluate, evaluate, inLeft]
      rcases evaluate context left machine with ⟨diagnostic | x, middle⟩
      · rfl
      · dsimp only [moveOutcome]
        rw [inRight]
        rcases evaluate context right middle with ⟨diagnostic | y, last⟩
        · rfl
        · dsimp only [moveOutcome]
          rw [applyOperator_mapSource keeps]
          cases applyOperator context op x y span with
          | error diagnostic => rfl
          | ok result =>
              dsimp only [moveOutcome]
              exact congrArg (Except.ok (result.mapSource move), ·)
                (last.note_mapSource (.computed (.binary op left right span) result))
  | assign name value span inner =>
      rw [Expr.mapSource, evaluate, evaluate, inner]
      rcases evaluate context value machine with ⟨diagnostic | x, after⟩
      · rfl
      · dsimp only [moveOutcome]
        rw [Expr.nameOf_mapSource, Number.placedAt_mapSource, Machine.bind_mapSource]

/-!
### Submissions

Only the first stage looks into the text. Two texts that have the same tokens,
up to their sources, therefore come to the same by everything that comes after
it.
-/

omit keeps

/-- Pieces mean the same tokens in every source. -/
theorem placePieces_mapSource (source : Source) (position : Position)
    (pieces : List (List Char)) :
    placePieces (move source) position pieces =
      moveOutcome move (List.map (Token.mapSource move))
        (placePieces source position pieces) := by
  induction pieces generalizing position with
  | nil => rfl
  | cons piece pieces inductionHypothesis =>
      rw [placePieces, placePieces]
      cases readPiece piece with
      | skipped => exact inductionHypothesis _
      | fault fault => rfl
      | token kind payload? =>
          dsimp only
          rw [inductionHypothesis]
          cases placePieces source (position.after piece) pieces <;> rfl

/-- The expression of a source in another one depends on its tokens there only. -/
theorem ofSource_mapSource (source : Source) :
    moveOutcome move (Expr.mapSource move) (Expr.ofSource source) =
      match moveOutcome move (List.map (Token.mapSource move)) source.tokens with
      | .ok tokens => Expr.ofTokens tokens
      | .error diagnostic => .error diagnostic := by
  unfold Expr.ofSource
  cases tokenized : source.tokens with
  | error diagnostic => rfl
  | ok tokens => exact (ofTokens_mapSource (ne_nil_of_placePieces tokenized)).symm

include keeps

/-- What a submission comes to in sources of the same names depends on its
    expression there only. -/
theorem run_mapSource (source : Source) (environment : Environment) :
    (moveOutcome move (Number.mapSource move) (run source environment).outcome,
        (run source environment).environment.mapSource move) =
      match moveOutcome move (Expr.mapSource move) (Expr.ofSource source) with
      | .ok tree =>
          let result :=
            evaluate .program tree { environment := environment.mapSource move }
          (result.1, result.2.environment)
      | .error diagnostic => (.error diagnostic, environment.mapSource move) := by
  cases parsed : Expr.ofSource source with
  | error diagnostic =>
      obtain ⟨outcome, left⟩ := run_of_ofSource_error parsed environment
      rw [outcome, left]
      rfl
  | ok tree =>
      obtain ⟨outcome, left⟩ := run_of_ofSource_ok parsed environment
      have moved := evaluate_mapSource keeps .program tree { environment }
      rw [outcome, left]
      exact (congrArg (fun result => (result.1, result.2.environment)) moved).symm

/-- Sources with the same tokens, up to the sources that these lie in, come to
    the same and leave the same bindings. -/
theorem run_eq_of_tokens {first second : Source}
    (same : moveOutcome move (List.map (Token.mapSource move)) first.tokens =
      moveOutcome move (List.map (Token.mapSource move)) second.tokens)
    (environment : Environment) :
    moveOutcome move (Number.mapSource move) (run first environment).outcome =
        moveOutcome move (Number.mapSource move) (run second environment).outcome ∧
      (run first environment).environment.mapSource move =
        (run second environment).environment.mapSource move := by
  rw [← Prod.mk.injEq, run_mapSource keeps, run_mapSource keeps,
    ofSource_mapSource, ofSource_mapSource, same]

end

end Abacus
