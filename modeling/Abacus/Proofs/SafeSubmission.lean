/-
Module: Abacus.Proofs.SafeSubmission
Purpose: No submission trips, and every diagnostic points into the submission.
  The stages are run with all their checks: the parser is the machine with a
  position and counters, and the faults of evaluation that no tree of a source
  has are trips. That comes to what the unchecked stages come to. The span of a
  diagnostic is one of a piece of the text, a token, a node of the tree, or the
  end of the text, and each of these lies in the source: its ends are in order,
  at positions that are met when the source is read. So the text of a span,
  whose length is a difference of its ends, can always be shown.
Main exports: Token.Stands.liesIn, Expr.LiesAmong, liesIn_of_ofSource,
  run_liesIn, Source.checkedOutcome, submission_never_trips
-/
import Abacus.Feedback
import Abacus.Proofs.Blame
import Abacus.Proofs.CursorAgreement

namespace Abacus

/-!
### Spans that lie in a source

A span lies in a source if its ends are met by reading it and are in order.
Merging keeps that, and what lies in a source can be cut out of its text.
-/

namespace Span.LiesIn

variable {first second : Span} {source : Source}

theorem merge (firstLies : first.LiesIn source) (secondLies : second.LiesIn source)
    (ordered : first.start.offset ≤ second.stop.offset) :
    (first.merge second).LiesIn source where
  source_eq := firstLies.source_eq
  ordered := ordered
  inside := secondLies.inside
  start_eq := firstLies.start_eq
  stop_eq := secondLies.stop_eq

/-- The length of the span is no difference below zero, so it has a text. -/
theorem text?_eq (lies : first.LiesIn source) :
    first.text? = some (String.ofList first.covered) :=
  if_neg (Nat.not_lt_of_le lies.ordered)

end Span.LiesIn

theorem Token.Stands.liesIn {token : Token} {source : Source}
    (stands : token.Stands source) : token.span.LiesIn source where
  source_eq := stands.source_eq
  ordered := Nat.le_of_lt stands.nonempty
  inside := stands.inside
  start_eq := stands.start_eq
  stop_eq := stands.stop_eq

/-- The end of the input lies behind the last character. -/
theorem Source.closing_liesIn (source : Source) :
    source.closing.span.LiesIn source := by
  have whole : source.chars = source.chars ++ ([] ++ []) := by simp
  exact liesIn_of_append whole

/-!
### Lexical faults

The first stage fails at a piece, which stands in the text where the pieces
before it have led.
-/

/-- The piece that cannot be read lies in the source. -/
theorem liesIn_of_tokens_error {source : Source} {diagnostic : Diagnostic}
    (failed : source.tokens = .error diagnostic) : diagnostic.span.LiesIn source := by
  obtain ⟨taken, piece, left, _, _, divided, _, _, rfl⟩ := exists_unread failed
  have whole : source.chars = taken.flatten ++ (piece ++ left.flatten) := by
    rw [← flatten_pieces source.chars, divided, List.flatten_append, List.flatten_cons]
  exact liesIn_of_append whole

/-!
### Nodes

The tokens of a source stand in it one after another, and a phrase keeps their
order. So the span of a node goes from the start of one token to the stop of a
later one, and what holds of the tokens of a phrase holds, by induction, of all
nodes of its tree.
-/

/-- What the tokens of a tree say of its places: every node lies in the source,
    and the whole tree goes from the start of one of the tokens to the stop of
    one. -/
structure Expr.LiesAmong (tree : Expr) (source : Source) (tokens : List Token) :
    Prop where
  nodes : ∀ node ∈ tree.postorder, node.span.LiesIn source
  start : ∃ first ∈ tokens, tree.span.start = first.span.start
  stop : ∃ last ∈ tokens, tree.span.stop = last.span.stop

/-- The tokens stand in the source one after another. -/
structure InOrder (source : Source) (tokens : List Token) : Prop where
  stands : ∀ token ∈ tokens, token.Stands source
  ordered : tokens.Pairwise fun first second =>
    first.span.stop.offset ≤ second.span.start.offset

namespace InOrder

variable {source : Source} {before after : List Token}

theorem left (inOrder : InOrder source (before ++ after)) : InOrder source before where
  stands :=
    fun token member => inOrder.stands token (List.mem_append_left after member)
  ordered := (List.pairwise_append.mp inOrder.ordered).1

theorem right (inOrder : InOrder source (before ++ after)) : InOrder source after where
  stands :=
    fun token member => inOrder.stands token (List.mem_append_right before member)
  ordered := (List.pairwise_append.mp inOrder.ordered).2.1

theorem tail {token : Token} (inOrder : InOrder source (token :: after)) :
    InOrder source after where
  stands :=
    fun other member => inOrder.stands other (List.mem_cons_of_mem token member)
  ordered := (List.pairwise_cons.mp inOrder.ordered).2

/-- A token starts before any later one stops. -/
theorem start_le_stop (inOrder : InOrder source (before ++ after))
    {first last : Token} (earlier : first ∈ before) (later : last ∈ after) :
    first.span.start.offset ≤ last.span.stop.offset := by
  have apart := (List.pairwise_append.mp inOrder.ordered).2.2 first earlier last later
  have advance := (inOrder.left.stands first earlier).nonempty
  have advance' := (inOrder.right.stands last later).nonempty
  omega

end InOrder

namespace Expr.LiesAmong

variable {tree left right operand : Expr} {source : Source}
    {tokens tokens' before after : List Token}

theorem span (among : tree.LiesAmong source tokens) : tree.span.LiesIn source :=
  among.nodes tree tree.self_mem_postorder

theorem mono (among : tree.LiesAmong source tokens) (subset : tokens ⊆ tokens') :
    tree.LiesAmong source tokens' where
  nodes := among.nodes
  start := among.start.imp fun _ ⟨member, start⟩ => ⟨subset member, start⟩
  stop := among.stop.imp fun _ ⟨member, stop⟩ => ⟨subset member, stop⟩

/-- A node over two operands goes from where the first one starts to where the
    second one stops. -/
theorem joinBinary (inOrder : InOrder source (before ++ after))
    (leftAmong : left.LiesAmong source before)
    (rightAmong : right.LiesAmong source after) (op : Token) :
    (Expr.joinBinary op left right).LiesAmong source (before ++ after) := by
  obtain ⟨first, earlier, start⟩ := leftAmong.start
  obtain ⟨last, later, stop⟩ := rightAmong.stop
  have ordered : left.span.start.offset ≤ right.span.stop.offset := by
    rw [start, stop]
    exact inOrder.start_le_stop earlier later
  refine ⟨?_, ⟨first, List.mem_append_left after earlier, start⟩,
    ⟨last, List.mem_append_right before later, stop⟩⟩
  refine List.forall_mem_append.mpr
    ⟨List.forall_mem_append.mpr ⟨leftAmong.nodes, rightAmong.nodes⟩, ?_⟩
  exact List.forall_mem_singleton.mpr (leftAmong.span.merge rightAmong.span ordered)

/-- A node that begins with a token of its own goes from there to where its
    operand stops. -/
theorem headed {opening : Token} {node : Expr}
    (inOrder : InOrder source (opening :: tokens))
    (among : operand.LiesAmong source tokens)
    (nodes : node.postorder = operand.postorder ++ [node])
    (span_eq : node.span = opening.span.merge operand.span) :
    node.LiesAmong source (opening :: tokens) := by
  have joined : InOrder source ([opening] ++ tokens) := inOrder
  obtain ⟨last, later, stop⟩ := among.stop
  have opens : opening ∈ [opening] := List.mem_singleton_self opening
  have ordered : opening.span.start.offset ≤ operand.span.stop.offset := by
    rw [stop]
    exact joined.start_le_stop opens later
  have openingLies := (inOrder.stands opening (List.mem_cons_self)).liesIn
  refine ⟨?_, ⟨opening, List.mem_cons_self, ?_⟩,
    ⟨last, List.mem_cons_of_mem opening later, ?_⟩⟩
  · rw [nodes]
    refine List.forall_mem_append.mpr ⟨among.nodes, List.forall_mem_singleton.mpr ?_⟩
    rw [span_eq]
    exact openingLies.merge among.span ordered
  · rw [span_eq, Span.start_merge]
  · rw [span_eq, Span.stop_merge, stop]

/-- A node that is a token lies where the token stands. -/
theorem leaf {token : Token} {node : Expr} (stands : token.Stands source)
    (nodes : node.postorder = [node]) (span_eq : node.span = token.span) :
    node.LiesAmong source [token] where
  nodes := by
    rw [nodes, List.forall_mem_singleton, span_eq]
    exact stands.liesIn
  start := ⟨token, List.mem_singleton_self token, by rw [span_eq]⟩
  stop := ⟨token, List.mem_singleton_self token, by rw [span_eq]⟩

end Expr.LiesAmong

namespace Grammar

/-- If the tokens of a phrase stand in the source one after another, its tree
    lies among them. -/
theorem Phrase.liesAmong {source : Source} {level : Level}
    (phrase : Phrase level) (inOrder : InOrder source phrase.tokens) :
    phrase.tree.LiesAmong source phrase.tokens := by
  induction phrase with
  | binding keyword name sign opens named assigns value valueLies =>
      have among := valueLies inOrder.tail.tail.tail
      exact .headed inOrder
        (among.mono fun _ member => .tail name (.tail sign member)) rfl rfl
  | plain sum sumLies => exact sumLies inOrder
  | one operand operandLies => exact operandLies inOrder
  | more left op joins right leftLies rightLies =>
      have among := rightLies inOrder.right.tail
      exact .joinBinary inOrder (leftLies inOrder.left)
        (among.mono (List.subset_cons_self op _)) op
  | signed op signs operand operandLies =>
      exact .headed inOrder (operandLies inOrder.tail) rfl rfl
  | bare atom atomLies => exact atomLies inOrder
  | power base op raises exponent baseLies exponentLies =>
      have among := exponentLies inOrder.right.tail
      exact .joinBinary inOrder (baseLies inOrder.left)
        (among.mono (List.subset_cons_self op _)) op
  | number literal numeric =>
      exact .leaf (inOrder.stands literal (List.mem_singleton_self literal)) rfl rfl
  | access name named =>
      exact .leaf (inOrder.stands name (List.mem_singleton_self name)) rfl rfl
  | brackets opening closing opens closes inner innerLies =>
      have among := innerLies inOrder.tail.left
      exact among.mono fun _ member =>
        .tail opening (List.mem_append_left [closing] member)

end Grammar

/-- What the parser sees of the tokens of a source: tokens that stand in it one
    after another, and its end. -/
theorem inOrder_beforeEnd {source : Source} {tokens : List Token}
    (tokenized : source.tokens = .ok tokens) :
    InOrder source (Token.beforeEnd tokens) ∧
      Token.endSpan tokens = source.closing.span := by
  obtain ⟨closed, tiles⟩ := tiles_beforeEnd tokenized
  refine ⟨⟨tiles.stands, tiles.ordered⟩, ?_⟩
  rw [closed]
  exact Grammar.endSpan_append
    (fun token member => (tiles.stands token member).lexeme.kind_ne_endOfInput) rfl []

/-- Every node of the tree of a source lies in the source. -/
theorem liesIn_of_ofSource {source : Source} {tree : Expr}
    (parsed : Expr.ofSource source = .ok tree) :
    ∀ node ∈ tree.postorder, node.span.LiesIn source := by
  obtain ⟨tokens, phrase, tokenized, spelled, rfl, _⟩ :=
    Grammar.ofSource_eq_ok_iff.mp parsed
  obtain ⟨inOrder, _⟩ := inOrder_beforeEnd tokenized
  rw [← spelled] at inOrder
  exact (phrase.liesAmong inOrder).nodes

/-!
### Diagnostics

Every stage, with what it can point at: a piece, a token or the end of the
input, or a node. Of the faults of evaluation two are left for the tree of a
source, an unknown name and operands that cannot be operated on.
-/

/-- What a source is refused for lies in the source. -/
theorem liesIn_of_ofSource_error {source : Source} {diagnostic : Diagnostic}
    (failed : Expr.ofSource source = .error diagnostic) :
    diagnostic.span.LiesIn source := by
  unfold Expr.ofSource at failed
  cases tokenized : source.tokens with
  | error fault =>
      rw [tokenized] at failed
      cases failed
      exact liesIn_of_tokens_error tokenized
  | ok tokens =>
      rw [tokenized] at failed
      obtain ⟨inOrder, stop⟩ := inOrder_beforeEnd tokenized
      rcases Cursor.span_of_ofTokens_error failed with place | ⟨token, member, place⟩
      · rw [place, stop]
        exact source.closing_liesIn
      · rw [place]
        exact (inOrder.stands token member).liesIn

/-- A node of a source that fails has a name that is unknown, or operands that
    cannot be operated on. -/
theorem fault_of_fails {context : Context} {node : Expr} {progress : Progress}
    {diagnostic : Diagnostic} (readable : node.Readable)
    (fails : Fails context node progress diagnostic) :
    ∃ fault place, diagnostic = context.fault fault place ∧
      ((∃ name, fault = .unknownName name) ∨ ∃ cause, fault = .arithmetic cause) := by
  cases fails with
  | number lacking =>
      obtain ⟨value, carried⟩ := readable
      rw [literalNumber_eq_ok_iff.mpr ⟨value, carried, rfl⟩] at lacking
      cases lacking
  | access unknown =>
      unfold lookUp at unknown
      split at unknown
      case h_1 => cases unknown
      case h_2 =>
        cases unknown
        exact ⟨_, _, rfl, .inl ⟨_, rfl⟩⟩
  | binary refused =>
      obtain ⟨operator, written⟩ := readable
      unfold applyOperator at refused
      rw [written] at refused
      dsimp only at refused
      split at refused
      case h_1 => cases refused
      case h_2 =>
        cases refused
        exact ⟨_, _, rfl, .inr ⟨_, rfl⟩⟩

/-- A fault of evaluation of the tree of a source lies in the source, and is
    none that the tree cannot have. -/
theorem evaluate_error_of_ofSource {source : Source} {tree : Expr}
    {environment : Environment} {diagnostic : Diagnostic}
    (parsed : Expr.ofSource source = .ok tree)
    (failed : (evaluate .program tree { environment }).1 = .error diagnostic) :
    diagnostic.span.LiesIn source ∧
      ∃ fault place, diagnostic = Context.program.fault fault place ∧
        ((∃ name, fault = .unknownName name) ∨ ∃ cause, fault = .arithmetic cause) := by
  obtain ⟨operands, before, node, after, nodes, done, fails⟩ :=
    evaluate_error failed []
  have standsIn : node.StandsIn source :=
    standsIn_of_ofSource parsed node (by simp [nodes])
  refine ⟨?_, fault_of_fails standsIn.readable fails⟩
  obtain ⟨blamed, member, points⟩ :=
    (blames_of_fails standsIn nodes done fails).exists_blamed nodes
  rw [points]
  exact liesIn_of_ofSource parsed blamed member

/-!
### Checked stages

The stages with all their checks, put in a row. Where an unchecked stage relies
on something that has just been shown, a checked one would trip; it comes to the
same, since what it checks holds.
-/

/-- The expression that a source writes, as the machine reads it. -/
def Source.checkedTree (source : Source) : Except Stop Expr :=
  match source.tokens with
  | .ok tokens => Cursor.ofTokens tokens
  | .error diagnostic => .error (.fault diagnostic)

/-- What evaluation stops with: the faults that only trees put together by hand
    can have are cases that a source is held not to lead to. -/
def Diagnostic.checked : Diagnostic → Stop
  | .runtime .literalWithoutNumber _ _ => .trip .unreachable
  | .runtime (.notAnOperator _) _ _ => .trip .unreachable
  | diagnostic => .fault diagnostic

/-- What a submission comes to if every stage is checked. -/
def Source.checkedOutcome (source : Source) (environment : Environment) :
    Except Stop Number :=
  match source.checkedTree with
  | .ok tree =>
      (evaluate .program tree { environment }).1.mapError Diagnostic.checked
  | .error stop => .error stop

theorem checkedTree_eq (source : Source) :
    source.checkedTree = (Expr.ofSource source).mapError .fault := by
  unfold Source.checkedTree Expr.ofSource
  cases source.tokens with
  | error diagnostic => rfl
  | ok tokens => exact Cursor.ofTokens_eq tokens

/-- The checked stages come to what the unchecked ones come to. -/
theorem checkedOutcome_eq (source : Source) (environment : Environment) :
    source.checkedOutcome environment =
      (run source environment).outcome.mapError .fault := by
  rw [Source.checkedOutcome, checkedTree_eq]
  cases parsed : Expr.ofSource source with
  | error diagnostic =>
      rw [(run_of_ofSource_error parsed environment).1]
      rfl
  | ok tree =>
      rw [(run_of_ofSource_ok parsed environment).1]
      change (evaluate .program tree { environment }).1.mapError Diagnostic.checked = _
      cases outcome : (evaluate .program tree { environment }).1 with
      | ok x => rfl
      | error diagnostic =>
          obtain ⟨_, fault, place, rfl, ⟨name, rfl⟩ | ⟨cause, rfl⟩⟩ :=
            evaluate_error_of_ofSource parsed outcome
          · rfl
          · rfl

/-- What a submission fails with lies in its source. -/
theorem run_liesIn {source : Source} {environment : Environment}
    {diagnostic : Diagnostic}
    (failed : (run source environment).outcome = .error diagnostic) :
    diagnostic.span.LiesIn source := by
  cases parsed : Expr.ofSource source with
  | error fault =>
      rw [(run_of_ofSource_error parsed environment).1] at failed
      cases failed
      exact liesIn_of_ofSource_error parsed
  | ok tree =>
      rw [(run_of_ofSource_ok parsed environment).1] at failed
      exact (evaluate_error_of_ofSource parsed failed).1

/-!
### What is shown

The records and the report ask for the text of a span, and for kinds of tokens
that a tree of a source has. With these checks as well a submission goes through
from its text to what a reader sees.
-/

/-- What is shown of an outcome: the feedback, and the report of a fault. -/
def shown (content : String) (outcome : Except Diagnostic Number) :
    SubmissionFeedback × Option String :=
  match outcome with
  | .ok _ => (.ofOutcome content outcome, none)
  | .error diagnostic => (.ofOutcome content outcome, some diagnostic.report)

/-- What is shown of a submission if every stage is checked, and the length of
    the text that a diagnostic points at as well. -/
def Source.checkedShown (source : Source) (environment : Environment) :
    Except Trip (SubmissionFeedback × Option String) :=
  match source.checkedOutcome environment with
  | .ok x => .ok (shown source.content (.ok x))
  | .error (.trip trip) => .error trip
  | .error (.fault diagnostic) =>
      match diagnostic.span.text? with
      | some _ => .ok (shown source.content (.error diagnostic))
      | none => .error .underflow

theorem checkedShown_eq (source : Source) (environment : Environment) :
    source.checkedShown environment =
      .ok (shown source.content (run source environment).outcome) := by
  rw [Source.checkedShown, checkedOutcome_eq]
  cases outcome : (run source environment).outcome with
  | ok x => rfl
  | error diagnostic =>
      change (match diagnostic.span.text? with | some _ => _ | none => _) = _
      rw [(run_liesIn outcome).text?_eq]

/-- A literal that carries a number carries an integer or a float. -/
theorem numeric_of_readable {literal : Token}
    (readable : (Expr.number literal).Readable) :
    (∃ i, literal.payload? = some (.int i)) ∨
      ∃ x, literal.payload? = some (.float x) := by
  obtain ⟨value, carried⟩ := readable
  obtain ⟨payload, here, reads⟩ := Option.bind_eq_some_iff.mp carried
  cases payload with
  | int i => exact .inl ⟨i, here⟩
  | float x => exact .inr ⟨x, here⟩
  | text s => cases reads

/-- The operators are written by tokens of five kinds. -/
theorem Kind.mem_of_operator? {kind : Kind} {operator : Operator}
    (written : kind.operator? = some operator) :
    kind ∈ [Kind.plus, .minus, .multiply, .divide, .power] := by
  cases kind <;> first | decide | cases written

/-- No submission trips, from its text to what is shown of it: every stage with
    all its checks comes to what it comes to without them. For, a literal of its
    tree carries a number, and a binary node an operator; and a diagnostic
    points into the source, at a stretch whose ends are in order and at
    positions that reading the source meets. -/
theorem submission_never_trips (source : Source) (environment : Environment) :
    source.checkedTree = (Expr.ofSource source).mapError .fault ∧
      source.checkedOutcome environment =
        (run source environment).outcome.mapError .fault ∧
      source.checkedShown environment =
        .ok (shown source.content (run source environment).outcome) ∧
      (∀ tree, Expr.ofSource source = .ok tree →
        (∀ literal, .number literal ∈ tree.postorder →
          (∃ i, literal.payload? = some (.int i)) ∨
            ∃ x, literal.payload? = some (.float x)) ∧
        ∀ op left right span, .binary op left right span ∈ tree.postorder →
          op.kind ∈ [Kind.plus, .minus, .multiply, .divide, .power]) ∧
      ∀ diagnostic, (run source environment).outcome = .error diagnostic →
        diagnostic.span.LiesIn source := by
  refine ⟨checkedTree_eq source, checkedOutcome_eq source environment,
    checkedShown_eq source environment, ?_,
    fun _ failed => run_liesIn failed⟩
  intro tree parsed
  have standsIn := standsIn_of_ofSource parsed
  constructor
  · intro literal member
    exact numeric_of_readable (standsIn _ member).readable
  · intro op left right span member
    obtain ⟨operator, written⟩ := (standsIn _ member).readable
    exact Kind.mem_of_operator? written

end Abacus
