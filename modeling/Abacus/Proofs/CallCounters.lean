/-
Module: Abacus.Proofs.CallCounters
Purpose: What the counters of the machine do in the course of a parse. In every
  state they are within their limits, the position is inside the tokens, and no
  end of the input has been passed. Every call of a routine leaves the counters
  as it found them and has passed a token if it is done; after a fault the
  nesting is what it was and the height no lower. So nothing is ever taken back
  that was not counted before. Besides, every call comes to what the parser of
  token lists comes to with the tokens ahead and what the counters leave of the
  limits. A routine that a fault leaves does not set its height back, so the
  bounds of the state it ends in cannot be read off where it was entered: `Kept`
  says them of that state, along with what is claimed of the events on the way.
Main exports: Cursor.InBounds, Cursor.Call.Balanced, Cursor.Call.Matches,
  Cursor.Traced.Kept, Cursor.Tracks, Cursor.tracks_nested,
  Cursor.calls_keep_counters
-/
import Abacus.Proofs.CursorAgreement
import Abacus.Proofs.TracedCursor

namespace Abacus

namespace Cursor

open Expr.Parser (Failure Parse)

/-!
### What holds in the course of a parse

The claims about a state, a call and an event, and what it takes for a step to
be kept: its last state is within bounds and all its events are sound. The first
part is what a sequence goes on from, and what is left to say of a routine that
ends in a fault. The lemmas say that sequences and calls of kept steps are kept.
-/

/-- The machine works on these tokens and has passed no end of the input, and
    its counters are within the limits. -/
structure InBounds (tokens : List Token) (cursor : Cursor) : Prop where
  tokens_eq : cursor.tokens = tokens
  inside : cursor.position < tokens.length
  none_passed : ∀ token ∈ tokens.take cursor.position, token.kind ≠ .endOfInput
  nesting_le : cursor.nesting ≤ greatestNesting
  nesting_le_height : cursor.nesting ≤ cursor.height
  height_le : cursor.height ≤ greatestHeight

/-- The tokens from the position to the end of the input. -/
def ahead (cursor : Cursor) : List Token :=
  Token.beforeEnd (cursor.tokens.drop cursor.position)

/-- If the call is done, both counters are what they were and a token has been
    passed. After a fault the nesting is what it was and the height no lower.
    The call has not tripped. -/
def Call.Balanced (call : Call) : Prop :=
  call.exit.nesting = call.entry.nesting ∧
    match call.outcome with
    | .ok _ =>
        call.exit.height = call.entry.height ∧ call.entry.position < call.exit.position
    | .error (.fault _) => call.entry.height ≤ call.exit.height
    | .error (.trip _) => False

/-- What the parser of token lists does where the machine calls the routine. A
    binding is called with its keyword next, and the parser has taken that
    before. -/
def Routine.parse (levels : Nat) : Routine → Nat → Parse
  | .expr => Expr.Parser.expr levels
  | .binding => fun room tokens =>
      match tokens with
      | [] => .error ⟨.expectedName, []⟩
      | keyword :: rest =>
          Expr.Parser.bindingWith (Expr.Parser.value levels) room keyword rest
  | .term => Expr.Parser.chain Expr.Parser.isScaling (Expr.Parser.factor levels)
  | .factor | .deeperSigned => Expr.Parser.factor levels
  | .power =>
      Expr.Parser.powerWith (Expr.Parser.factor levels) (Expr.Parser.expr levels)
  | .atom => Expr.Parser.atomWith (Expr.Parser.expr levels)
  | .deeperExpr => Expr.Parser.value levels

/-- The call has come to what the parser comes to on the tokens ahead, with what
    the counters leave of the limits; and the tokens ahead are afterwards those
    that the parser leaves. -/
def Call.Matches (stop : Span) (call : Call) : Prop :=
  match call.routine.parse (greatestNesting - call.entry.nesting)
      (greatestHeight - call.entry.height) call.entry.ahead with
  | .ok (tree, rest) => call.outcome = .ok tree ∧ call.exit.ahead = rest
  | .error failure =>
      call.outcome = .error (.fault (failure.diagnostic stop)) ∧
        call.exit.ahead = failure.ahead

/-- What is claimed of the events in the course of a parse of these tokens,
    which end at `stop`. -/
def Event.Sound (tokens : List Token) (stop : Span) : Event → Prop
  | .state cursor => cursor.InBounds tokens
  | .call made =>
      made.entry.InBounds tokens ∧ made.exit.InBounds tokens ∧ made.Balanced ∧
        made.Matches stop

/-- From this state the step ends within bounds, and what happens in its course
    is sound. -/
def Traced.Kept {α : Type} (tokens : List Token) (stop : Span)
    (traced : Traced α) (cursor : Cursor) : Prop :=
  (traced.step cursor).2.InBounds tokens ∧
    ∀ event ∈ traced.events cursor, event.Sound tokens stop

namespace Traced.Kept

variable {α β : Type} {tokens : List Token} {stop : Span} {cursor after : Cursor}

theorem pure (a : α) (bounds : cursor.InBounds tokens) :
    Kept tokens stop (Pure.pure a : Traced α) cursor :=
  ⟨bounds, by rintro _ ⟨⟩⟩

theorem elementary {step : Step α} (bounds : (step cursor).2.InBounds tokens) :
    Kept tokens stop (Traced.elementary step) cursor :=
  ⟨bounds, List.forall_mem_singleton.mpr bounds⟩

theorem bind_of_ok {first : Traced α} {a : α}
    (done : first.step cursor = (.ok a, after)) {next : α → Traced β}
    (kept : Kept tokens stop first cursor) (onward : Kept tokens stop (next a) after) :
    Kept tokens stop (first >>= next) cursor := by
  refine ⟨?_, List.forall_mem_append.mpr ⟨kept.2, ?_⟩⟩
  · rw [step_bind, Cursor.bind_of_ok done]
    exact onward.1
  · rw [done]
    exact onward.2

theorem bind_of_error {first : Traced α} {fault : Stop}
    (stopped : first.step cursor = (.error fault, after)) (next : α → Traced β)
    (kept : Kept tokens stop first cursor) :
    Kept tokens stop (first >>= next) cursor := by
  refine ⟨?_, List.forall_mem_append.mpr ⟨kept.2, ?_⟩⟩
  · rw [step_bind, Cursor.bind_of_error stopped]
    simpa only [stopped] using kept.1
  · rw [stopped]
    rintro _ ⟨⟩

/-- A sequence that begins with an elementary step. -/
theorem elementary_bind {step : Step α} {a : α}
    (done : step cursor = (.ok a, after)) (bounds : after.InBounds tokens)
    {next : α → Traced β} (onward : Kept tokens stop (next a) after) :
    Kept tokens stop (Traced.elementary step >>= next) cursor :=
  bind_of_ok done (elementary (by rwa [done])) onward

theorem call {routine : Routine} {body : Traced Expr}
    (bounds : cursor.InBounds tokens) (kept : Kept tokens stop body cursor)
    (sound : Call.Balanced ⟨routine, cursor, (body.step cursor).1, (body.step cursor).2⟩ ∧
      Call.Matches stop ⟨routine, cursor, (body.step cursor).1, (body.step cursor).2⟩) :
    Kept tokens stop (Traced.call routine body) cursor :=
  ⟨kept.1, List.forall_mem_append.mpr
      ⟨kept.2, List.forall_mem_singleton.mpr ⟨bounds, kept.1, sound⟩⟩⟩

end Traced.Kept

/-!
### Places

A state of the machine among the tokens is a place: what has been passed, what
is ahead, and the two counters. Within bounds is then a matter of the counters
alone (`Listing.inBounds`), because a place never has an end of the input behind
it.
-/

/-- The counters are within the limits. -/
structure Within (nesting height : Nat) : Prop where
  nesting_le : nesting ≤ greatestNesting
  nesting_le_height : nesting ≤ height
  height_le : height ≤ greatestHeight

theorem Within.grow {nesting height : Nat} (within : Within nesting height)
    (room : height < greatestHeight) : Within nesting (height + 1) :=
  ⟨within.nesting_le, Nat.le_succ_of_le within.nesting_le_height, room⟩

/-- Tokens before an end of the input, none of which is one. -/
structure Listing extends Ending where
  before : List Token
  others : ∀ token ∈ before, token.kind ≠ .endOfInput

/-- All the tokens: those before the end of the input, the end, and what plays
    no part. -/
def Listing.all (listing : Listing) : List Token :=
  listing.before ++ listing.stop :: listing.beyond

/-- Every list of tokens is a listing once it is terminated. -/
theorem exists_listing (tokens : List Token) :
    ∃ listing : Listing, listing.all = terminated tokens ∧
      listing.stop.span = Token.endSpan tokens ∧
      ({ tokens := terminated tokens } : Cursor) =
        listing.between [] listing.before 0 0 := by
  obtain ⟨ending, place, start⟩ := exists_ending tokens
  have others : ∀ token ∈ Token.beforeEnd tokens, token.kind ≠ .endOfInput :=
    fun _ => kind_ne_of_mem_beforeEnd
  refine ⟨{ ending with before := Token.beforeEnd tokens, others }, ?_, place, start⟩
  exact (congrArg Cursor.tokens start).symm

/-- Wherever the step is taken with these counters, it is kept. -/
def KeepsAt {α : Type} (listing : Listing) (nesting height : Nat)
    (traced : Traced α) : Prop :=
  ∀ behind ahead, behind ++ ahead = listing.before →
    traced.Kept listing.all listing.stop.span
      (listing.between behind ahead nesting height)

section

variable {α β : Type} {listing : Listing} {nesting height : Nat}
    {behind ahead passed rest : List Token}

/-- Passing some of the tokens ahead leads to another place in the listing. -/
theorem split_after {before : List Token} (split : behind ++ ahead = before)
    (apart : ahead = passed ++ rest) : behind ++ passed ++ rest = before := by
  rw [List.append_assoc, ← apart, split]

theorem Listing.inBounds (split : behind ++ ahead = listing.before)
    (within : Within nesting height) :
    (listing.between behind ahead nesting height).InBounds listing.all where
  tokens_eq := by
    rw [Listing.all, ← split, List.append_assoc]
    rfl
  inside := by
    rw [Listing.all, ← split]
    simp only [Ending.between, List.length_append, List.length_cons]
    omega
  none_passed := by
    rw [Listing.all, ← split, List.append_assoc]
    intro token member
    rw [Ending.between, List.take_left] at member
    exact listing.others token (split ▸ List.mem_append_left ahead member)
  nesting_le := within.nesting_le
  nesting_le_height := within.nesting_le_height
  height_le := within.height_le

theorem Listing.ahead_between (split : behind ++ ahead = listing.before) :
    (listing.between behind ahead nesting height).ahead = ahead := by
  have others : ∀ token ∈ ahead, token.kind ≠ .endOfInput := fun token member =>
    listing.others token (split ▸ List.mem_append_right behind member)
  have nothing : Token.beforeEnd (listing.stop :: listing.beyond) = [] :=
    List.takeWhile_cons_of_neg (by simp [listing.isEnd])
  rw [Cursor.ahead, Ending.between, List.drop_left,
    Grammar.beforeEnd_append others, nothing, List.append_nil]

/-!
### Sequences

One lemma for each elementary step of the machine, at a place. Where a sequence
goes on from is known from the agreement of the machine with the parser of token
lists: it says which tokens the first step has passed and how it leaves the
counters. After a fault the height may be higher than it was, and only the
bounds kept so far say that it can still be counted down.
-/

/-- After a token was passed, the sequence goes on behind it. -/
theorem Traced.Kept.advance (within : Within nesting height) {token : Token}
    {next : Token → Traced α} (split : behind ++ token :: rest = listing.before)
    (onward : KeepsAt listing nesting height (next token)) :
    (Traced.elementary Cursor.advance >>= next).Kept listing.all listing.stop.span
      (listing.between behind (token :: rest) nesting height) := by
  have split' : behind ++ [token] ++ rest = listing.before := split_after split rfl
  exact .elementary_bind (advance_between ..) (listing.inBounds split' within)
    (onward _ rest split')

/-- A level of the tree is counted if there is room for it, and else refused. -/
theorem Traced.Kept.grow (within : Within nesting height)
    (split : behind ++ ahead = listing.before) {next : Unit → Traced α}
    (onward : height < greatestHeight →
      (next ()).Kept listing.all listing.stop.span
        (listing.between behind ahead nesting (height + 1))) :
    (Traced.elementary Cursor.grow >>= next).Kept listing.all listing.stop.span
      (listing.between behind ahead nesting height) := by
  rcases Nat.lt_or_ge height greatestHeight with room | full
  · exact .elementary_bind (grow_between _ behind ahead nesting height room)
      (listing.inBounds split (within.grow room)) (onward room)
  · have refused :=
      grow_between_of_full listing.toEnding behind ahead nesting height full
    refine .bind_of_error refused next (.elementary ?_)
    rw [refused]
    exact listing.inBounds split within

namespace KeepsAt

/-- The second step is taken where the first one has led, which is where it
    leads the machine that agrees with a parser. -/
theorem bind {first : Traced α} {next : α → Traced β}
    {parse : List Token → Except Failure (α × List Token)}
    (keeps : KeepsAt listing nesting height first)
    (agrees : AgreesAt listing.toEnding nesting height (· = height) first.step parse)
    (onward : ∀ a, KeepsAt listing nesting height (next a)) :
    KeepsAt listing nesting height (first >>= next) := by
  intro behind ahead split
  have same := agrees behind ahead
  cases outcome : first.step (listing.between behind ahead nesting height) with
  | mk result reached =>
      rw [outcome] at same
      generalize parse ahead = parsed at same
      cases same with
      | ok apart left =>
          rw [left] at outcome
          exact .bind_of_ok outcome (keeps behind ahead split)
            (onward _ _ _ (split_after split apart))
      | error => exact .bind_of_error outcome next (keeps behind ahead split)

theorem pure (within : Within nesting height) (a : α) :
    KeepsAt listing nesting height (Pure.pure a) :=
  fun _ _ split => .pure a (listing.inBounds split within)

theorem fail (within : Within nesting height) (fault : SyntaxFault) :
    KeepsAt listing nesting height (Traced.elementary (Cursor.fail fault : Step α)) := by
  intro behind ahead split
  apply Traced.Kept.elementary
  rw [fail_between]
  exact listing.inBounds split within

theorem current (within : Within nesting height) {next : Token → Traced α}
    (cases : ∀ behind ahead, behind ++ ahead = listing.before →
      (next (listing.next ahead)).Kept listing.all listing.stop.span
        (listing.between behind ahead nesting height)) :
    KeepsAt listing nesting height (Traced.elementary Cursor.current >>= next) := by
  intro behind ahead split
  exact .elementary_bind (current_between ..) (listing.inBounds split within)
    (cases behind ahead split)

theorem expectKind (listing : Listing) (within : Within nesting height)
    (kind : Kind) (other : kind ≠ .endOfInput) (fault : SyntaxFault) :
    KeepsAt listing nesting height
      (Traced.elementary (Cursor.expect (·.kind == kind) fault)) := by
  intro behind ahead split
  have here := listing.inBounds split within
  apply Traced.Kept.elementary
  rw [Cursor.expect, bind_of_ok (current_between ..)]
  cases ahead with
  | nil =>
      have stops : (listing.stop.kind == kind) = false := by
        rw [listing.isEnd]
        exact beq_eq_false_iff_ne.mpr other.symm
      rw [Ending.next_nil, stops, if_neg Bool.false_ne_true, fail_between]
      exact here
  | cons token rest =>
      rw [Ending.next_cons]
      cases token.kind == kind with
      | false =>
          rw [if_neg Bool.false_ne_true, fail_between]
          exact here
      | true =>
          rw [if_pos rfl, advance_between]
          exact listing.inBounds (split_after split rfl) within

theorem keepingHeight {inner : Traced Expr}
    (keeps : KeepsAt listing nesting height inner)
    (within : Within nesting height) {leaves : Nat → Prop} {parse : Parse}
    (agrees : AgreesAt listing.toEnding nesting height leaves inner.step parse) :
    KeepsAt listing nesting height (Traced.keepingHeight inner) := by
  intro behind ahead split
  have same := agrees behind ahead
  refine .elementary_bind rfl (listing.inBounds split within) ?_
  cases outcome : inner.step (listing.between behind ahead nesting height) with
  | mk result reached =>
      rw [outcome] at same
      generalize parse ahead = parsed at same
      cases same with
      | ok apart left =>
          have back := listing.inBounds (split_after split apart) within
          exact .bind_of_ok outcome (keeps behind ahead split)
            (.elementary_bind rfl back (.pure _ back))
      | error => exact .bind_of_error outcome _ (keeps behind ahead split)

end KeepsAt

/-- Taking the counters back leads through two states. -/
theorem kept_ascend (split : behind ++ ahead = listing.before)
    (lowered : Within nesting height) (room : height < greatestHeight) :
    Traced.ascend.Kept listing.all listing.stop.span
      (listing.between behind ahead (nesting + 1) (height + 1)) := by
  have halfway := listing.inBounds split (lowered.grow room)
  have back := listing.inBounds split lowered
  exact ⟨back, List.forall_mem_cons.mpr ⟨halfway, List.forall_mem_singleton.mpr back⟩⟩

/-- The counters come down within the limits, since the inner routine has left
    the nesting where it was and the height no lower. -/
theorem Traced.Kept.settle {outcome : Except Stop Expr × Cursor}
    {parsed : Except Failure (Expr × List Token)}
    (split : behind ++ ahead = listing.before) (within : Within nesting height)
    (same : SameOutcome listing.toEnding (nesting + 1) (height + 1) (· = height + 1)
      behind ahead outcome parsed)
    (bounds : outcome.2.InBounds listing.all) :
    (Traced.settle outcome.1).Kept listing.all listing.stop.span outcome.2 := by
  cases same with
  | ok apart left =>
      subst left
      have split' := split_after split apart
      have ascends := kept_ascend split' within bounds.height_le
      exact .bind_of_ok (ascend_between ..) ascends
        (.pure _ (listing.inBounds split' within))
  | @error _ failure height' apart atLeast =>
      obtain ⟨lower, rfl⟩ : ∃ lower, height' = lower + 1 := ⟨height' - 1, by omega⟩
      have split' := split_after split apart
      have lowered : Within nesting lower :=
        ⟨within.nesting_le, Nat.le_of_succ_le_succ bounds.nesting_le_height,
          Nat.le_of_succ_le bounds.height_le⟩
      have ascends := kept_ascend split' lowered bounds.height_le
      exact .bind_of_ok (ascend_between ..) ascends
        (.elementary (listing.inBounds split' lowered))

/-!
### Calls

A call comes to what the parser comes to, so it is balanced because of what is
known of the parser: whatever a routine reads is a phrase, and every phrase has
a token. Hence a call that is done has passed one.
-/

/-- Every phrase has a token, so what reads one leaves fewer tokens. -/
theorem length_lt_of_reads {level : Grammar.Level} {parse : Parse}
    (reads : Grammar.Reads level parse) {tokens : List Token} {tree : Expr}
    (done : parse tokens = .ok (tree, rest)) : rest.length < tokens.length := by
  obtain ⟨phrase, _, rfl, _⟩ := reads done
  obtain ⟨token, others, spelled, _⟩ := phrase.exists_head
  rw [spelled, List.length_append, List.length_cons]
  omega

theorem Routine.length_lt_of_parse {routine : Routine} {levels room : Nat}
    {tokens : List Token} {tree : Expr}
    (done : routine.parse levels room tokens = .ok (tree, rest)) :
    rest.length < tokens.length := by
  obtain ⟨readsFactor, readsValue⟩ := Grammar.reads_nested levels
  have readsExpr := Grammar.reads_expr levels
  cases routine with
  | expr => exact length_lt_of_reads (readsExpr room) done
  | term =>
      exact length_lt_of_reads (Grammar.reads_chain (c := .term) readsFactor room) done
  | factor => exact length_lt_of_reads (readsFactor room) done
  | power =>
      exact length_lt_of_reads (Grammar.reads_powerWith readsFactor readsExpr room) done
  | atom => exact length_lt_of_reads (Grammar.reads_atomWith readsExpr room) done
  | deeperSigned => exact length_lt_of_reads (readsFactor room) done
  | deeperExpr => exact length_lt_of_reads (readsValue room) done
  | binding =>
      cases tokens with
      | nil => cases done
      | cons keyword tokens =>
          obtain ⟨_, readName, afterName⟩ := Grammar.bind_eq_ok done
          obtain ⟨_, readSign, afterSign⟩ := Grammar.bind_eq_ok afterName
          obtain ⟨⟨value, _⟩, readValue, finish⟩ := Grammar.bind_eq_ok afterSign
          obtain ⟨rfl, _⟩ := Grammar.expect_eq_ok readName
          obtain ⟨signed, _⟩ := Grammar.expect_eq_ok readSign
          have shorter := length_lt_of_reads (readsValue room) readValue
          cases finish
          simp only [List.length_cons, signed]
          omega

/-- A call that comes to what the parser comes to is balanced and matches it. -/
theorem Call.balanced_and_matches {routine : Routine} {levels : Nat}
    {outcome : Except Stop Expr} {exit : Cursor}
    (nested : nesting + levels = greatestNesting)
    (split : behind ++ ahead = listing.before)
    (same : SameOutcome listing.toEnding nesting height (· = height) behind ahead
      (outcome, exit) (routine.parse levels (greatestHeight - height) ahead)) :
    (Call.mk routine (listing.between behind ahead nesting height)
        outcome exit).Balanced ∧
      (Call.mk routine (listing.between behind ahead nesting height)
        outcome exit).Matches listing.stop.span := by
  have levels_eq : greatestNesting - nesting = levels := by omega
  rw [Call.Matches]
  dsimp only [Ending.nesting_between, Ending.height_between]
  rw [listing.ahead_between split, levels_eq]
  cases parsed : routine.parse levels (greatestHeight - height) ahead with
  | ok read =>
      obtain ⟨tree, rest⟩ := read
      rw [parsed] at same
      cases same with
      | @ok passed _ _ _ apart left =>
          have shorter := Routine.length_lt_of_parse parsed
          rw [apart, List.length_append] at shorter
          refine ⟨⟨rfl, left, ?_⟩, rfl, listing.ahead_between (split_after split apart)⟩
          change behind.length < (behind ++ passed).length
          rw [List.length_append]
          omega
  | error failure =>
      rw [parsed] at same
      cases same with
      | error apart atLeast =>
          exact ⟨⟨rfl, atLeast⟩, rfl, listing.ahead_between (split_after split apart)⟩

/-!
### Routines

One lemma for each routine that is built from others, all of the same form: if
the routines inside are tracked, so is the routine. Tracking joins the agreement
with the parser to being kept, since every sequence needs the first of the two
for its second. They are tied together by induction on the levels that are left
(`tracks_nested`).
-/

/-- The traced routine agrees with the parser, and is kept wherever it is run. -/
structure Tracks (listing : Listing) (nesting : Nat) (traced : Traced Expr)
    (parse : Nat → Parse) : Prop where
  agrees : Agrees listing.toEnding nesting traced.step parse
  keeps : ∀ height, Within nesting height → KeepsAt listing nesting height traced

/-- What is left of the limit adds up with the height. -/
theorem Tracks.agreesAt {traced : Traced Expr} {parse : Nat → Parse}
    (tracks : Tracks listing nesting traced parse) (within : Within nesting height) :
    AgreesAt listing.toEnding nesting height (· = height) traced.step
      (parse (greatestHeight - height)) :=
  tracks.agrees _ height (Nat.add_sub_of_le within.height_le)

/-- By induction on the turns, of which there are more than units of height
    left. -/
theorem KeepsAt.operators {isOperator : Token → Bool}
    (stops : isOperator listing.stop = false) {operand : Traced Expr}
    {parse : Nat → Parse} (tracks : Tracks listing nesting operand parse) :
    ∀ (turns height : Nat) (left : Expr), Within nesting height →
      greatestHeight < turns + height →
      KeepsAt listing nesting height (Traced.operators isOperator operand turns left)
  | 0, height, _, within, enough => absurd within.height_le (by omega)
  | turns + 1, height, left, within, enough => by
      apply KeepsAt.current within
      intro behind ahead split
      have done := KeepsAt.pure within left behind ahead split
      cases ahead with
      | nil =>
          rw [Ending.next_nil, stops]
          exact done
      | cons op rest =>
          rw [Ending.next_cons]
          cases joins : isOperator op with
          | false => exact done
          | true =>
              rw [if_pos rfl]
              refine .grow within split fun room => .advance (within.grow room) split ?_
              have above := within.grow room
              exact (tracks.keeps _ above).bind (tracks.agreesAt above) fun right =>
                KeepsAt.operators stops tracks turns (height + 1)
                  (.joinBinary op left right) above (by omega)

namespace Tracks

variable {levels : Nat} {factor value inner : Traced Expr}

theorem call (routine : Routine) (nested : nesting + levels = greatestNesting)
    {body : Traced Expr}
    (tracks : Tracks listing nesting body (routine.parse levels)) :
    Tracks listing nesting (Traced.call routine body) (routine.parse levels) where
  agrees := tracks.agrees
  keeps height within behind ahead split :=
    .call (listing.inBounds split within) (tracks.keeps height within behind ahead split)
      (Call.balanced_and_matches nested split (tracks.agreesAt within behind ahead))

theorem chain {isOperator : Token → Bool} (stops : isOperator listing.stop = false)
    {first operand : Traced Expr} {firstParse parse : Nat → Parse}
    (firstTracks : Tracks listing nesting first firstParse)
    (operandTracks : Tracks listing nesting operand parse) :
    Tracks listing nesting (Traced.chain isOperator first operand) fun room tokens =>
      firstParse room tokens >>= fun read =>
        Expr.Parser.chainRest isOperator parse room read.1 read.2 where
  agrees := by
    rw [Traced.step_chain]
    exact .chain stops firstTracks.agrees operandTracks.agrees
  keeps height within := by
    have rest (left : Expr) :
        AgreesAt listing.toEnding nesting height (height ≤ ·)
          (Traced.operators isOperator operand (greatestHeight + 1) left).step
          (Expr.Parser.chainRest isOperator parse (greatestHeight - height) left) := by
      rw [Traced.step_operators]
      exact .operators stops operandTracks.agrees _ _ height left
        (Nat.add_sub_of_le within.height_le) (by omega)
    have body :=
      (firstTracks.keeps height within).bind (firstTracks.agreesAt within) fun left =>
        KeepsAt.operators stops operandTracks
          (greatestHeight + 1) height left within (by omega)
    exact body.keepingHeight within ((firstTracks.agreesAt within).bind rest)

theorem sum (nested : nesting + levels = greatestNesting)
    (factors : Tracks listing nesting factor (Expr.Parser.factor levels)) :
    Tracks listing nesting (Traced.sum factor)
      (Expr.Parser.sumWith (Expr.Parser.factor levels)) := by
  have term : Tracks listing nesting
      (Traced.call .term (Traced.chain Expr.Parser.isScaling factor factor))
      (Routine.term.parse levels) :=
    call .term nested (chain listing.isScaling_stop factors factors)
  exact chain listing.isSign_stop term term

/-- A binding is called where its keyword is next. -/
theorem kept_binding (nested : nesting + levels = greatestNesting)
    (values : Tracks listing nesting value (Expr.Parser.value levels))
    (within : Within nesting height) {keyword : Token}
    (split : behind ++ keyword :: rest = listing.before) :
    (Traced.binding value).Kept listing.all listing.stop.span
      (listing.between behind (keyword :: rest) nesting height) := by
  have name := AgreesAt.expectKind listing.toEnding nesting height .identifier
    (by decide) .expectedName
  have sign := AgreesAt.expectKind listing.toEnding nesting height .assignment
    (by decide) .expectedAssignment
  have keepsName :=
    KeepsAt.expectKind listing within .identifier (by decide) .expectedName
  have keepsSign :=
    KeepsAt.expectKind listing within .assignment (by decide) .expectedAssignment
  apply Traced.Kept.call (listing.inBounds split within)
  · refine .advance within split
      (keepsName.bind name fun name => keepsSign.bind sign fun _ => ?_)
    exact (values.keeps height within).bind (values.agreesAt within) fun value =>
      .pure within _
  · apply Call.balanced_and_matches nested split
    exact .advance (values.agrees.bindingTail keyword _ height
        (Nat.add_sub_of_le within.height_le) _ rest)

theorem expr (nested : nesting + levels = greatestNesting)
    (factors : Tracks listing nesting factor (Expr.Parser.factor levels))
    (values : Tracks listing nesting value (Expr.Parser.value levels)) :
    Tracks listing nesting (Traced.expr factor value) (Expr.Parser.expr levels) := by
  have plain := sum nested factors
  apply call .expr nested
  constructor
  case agrees =>
    rw [← Traced.step_call .expr]
    exact Traced.step_expr factor value ▸ factors.agrees.expr values.agrees
  case keeps =>
    intro height within
    apply KeepsAt.current within
    intro behind ahead split
    cases opens : (listing.next ahead).isKeyword "let" with
    | false => exact plain.keeps height within behind ahead split
    | true =>
        cases ahead with
        | nil => exact absurd opens (by simp [listing.isKeyword_stop])
        | cons keyword rest => exact kept_binding nested values within split

theorem kept_brackets (exprs : Tracks listing nesting inner (Expr.Parser.expr levels))
    (within : Within nesting height) {opening : Token}
    (split : behind ++ opening :: rest = listing.before) :
    (Traced.brackets inner).Kept listing.all listing.stop.span
      (listing.between behind (opening :: rest) nesting height) := by
  have closing := AgreesAt.expectKind listing.toEnding nesting height .rightParen
    (by decide) .unclosedBracket
  have keepsClosing :=
    KeepsAt.expectKind listing within .rightParen (by decide) .unclosedBracket
  refine .advance within split ?_
  exact (exprs.keeps height within).bind (exprs.agreesAt within) fun tree =>
    keepsClosing.bind closing fun _ => .pure within tree

theorem kept_leaf (node : Token → Expr) (within : Within nesting height)
    {token : Token} (split : behind ++ token :: rest = listing.before) :
    (Traced.elementary (node <$> advance)).Kept listing.all listing.stop.span
      (listing.between behind (token :: rest) nesting height) := by
  apply Traced.Kept.elementary
  change ((advance >>= fun token => Pure.pure (node token)) _).2.InBounds _
  rw [bind_of_ok (advance_between ..)]
  exact listing.inBounds (split_after split rfl) within

theorem atom (nested : nesting + levels = greatestNesting)
    (exprs : Tracks listing nesting inner (Expr.Parser.expr levels)) :
    Tracks listing nesting (Traced.atom inner)
      (Expr.Parser.atomWith (Expr.Parser.expr levels)) := by
  apply call .atom nested
  constructor
  case agrees =>
    rw [← Traced.step_call .atom]
    exact Traced.step_atom inner ▸ exprs.agrees.atom
  case keeps =>
    intro height within
    apply KeepsAt.current within
    intro behind ahead split
    have refused := KeepsAt.fail (α := Expr) within .expectedOperand behind ahead split
    cases ahead with
    | nil =>
        rw [Ending.next_nil, listing.isEnd]
        exact refused
    | cons token rest =>
        rw [Ending.next_cons]
        cases token.kind with
        | integer => exact kept_leaf .number within split
        | float => exact kept_leaf .number within split
        | identifier => exact kept_leaf .access within split
        | leftParen => exact kept_brackets exprs within split
        | _ => exact refused

theorem signed (nested : nesting + levels = greatestNesting)
    (factors : Tracks listing nesting factor (Expr.Parser.factor levels))
    (exprs : Tracks listing nesting inner (Expr.Parser.expr levels)) :
    Tracks listing nesting (Traced.signed factor inner)
      (Expr.Parser.factorWith (Expr.Parser.factor levels) (Expr.Parser.expr levels)) := by
  have power : Tracks listing nesting
      (Traced.call .power (Traced.chain Expr.Parser.isPower (Traced.atom inner) factor))
      (Routine.power.parse levels) :=
    call .power nested (chain listing.isPower_stop (atom nested exprs) factors)
  constructor
  case agrees =>
    exact Traced.step_signed factor inner ▸ factors.agrees.signed exprs.agrees
  case keeps =>
    intro height within
    apply KeepsAt.current within
    intro behind ahead split
    cases signs : Expr.Parser.isSign (listing.next ahead) with
    | false => exact power.keeps height within behind ahead split
    | true =>
        cases ahead with
        | nil => exact absurd signs (by simp [listing.isSign_stop])
        | cons token rest =>
            refine .advance within split ?_
            exact (factors.keeps height within).bind (factors.agreesAt within)
              fun operand =>
                KeepsAt.pure within (Expr.joinUnary token operand)

/-- Within the limits a routine is run one level deeper; beyond them it is
    refused before it is run. -/
theorem descend (nested : nesting + levels = greatestNesting)
    {traced : Unit → Traced Expr} {parse outer : Nat → Parse}
    (outer_eq : ∀ room tokens, outer room tokens =
      if 0 < levels ∧ 0 < room then parse (room - 1) tokens
      else .error ⟨.tooDeep, tokens⟩)
    (deeper : 0 < levels → Tracks listing (nesting + 1) (traced ()) parse) :
    Tracks listing nesting (Traced.descend traced) outer where
  agrees := by
    rw [Traced.step_descend]
    exact .descend nested outer_eq fun below => (deeper below).agrees
  keeps height within := by
    intro behind ahead split
    refine .elementary_bind rfl (listing.inBounds split within) ?_
    rw [Ending.nesting_between]
    by_cases below : 0 < levels
    case neg =>
      rw [if_pos (by omega)]
      exact KeepsAt.fail within .tooDeep behind ahead split
    case pos =>
      rw [if_neg (by omega)]
      refine .grow within split fun room => ?_
      have entered : Within (nesting + 1) (height + 1) :=
        ⟨by omega, Nat.succ_le_succ within.nesting_le_height, room⟩
      have same := (deeper below).agreesAt entered behind ahead
      have kept := (deeper below).keeps _ entered behind ahead split
      refine .elementary_bind rfl (listing.inBounds split entered) ?_
      exact .bind_of_ok rfl ⟨kept.1, kept.2⟩ (.settle split within same kept.1)

end Tracks

/-- Factors and values are tracked at every nesting: there are as many levels
    left as the nesting may still go up. -/
theorem tracks_nested (listing : Listing) (levels : Nat) :
    ∀ nesting, nesting + levels = greatestNesting →
      Tracks listing nesting (Traced.factor (levels + 1)) (Expr.Parser.factor levels) ∧
        Tracks listing nesting (Traced.value (levels + 1))
          (Expr.Parser.value levels) := by
  induction levels with
  | zero =>
      intro nesting full
      have none {traced : Traced Expr} {parse : Nat → Parse} (some : 0 < 0) :
          Tracks listing (nesting + 1) traced parse :=
        absurd some (Nat.lt_irrefl 0)
      constructor
      · apply Tracks.call .factor full
        apply Tracks.call .deeperSigned full
        exact .descend full (Grammar.Phrase.factor_eq 0) none
      · apply Tracks.call .deeperExpr full
        exact .descend full (value_eq 0) none
  | succ levels deeper =>
      intro nesting below
      have nested : nesting + 1 + levels = greatestNesting := by omega
      obtain ⟨factors, values⟩ := deeper (nesting + 1) nested
      have exprs := Tracks.expr nested factors values
      constructor
      · apply Tracks.call .factor below
        apply Tracks.call .deeperSigned below
        exact .descend below (Grammar.Phrase.factor_eq (levels + 1)) fun _ =>
          .signed nested factors exprs
      · apply Tracks.call .deeperExpr below
        exact .descend below (value_eq (levels + 1)) fun _ => exprs

/-!
### Lists of tokens

The machine starts with both counters at zero and all tokens ahead, which is a
place within bounds. What comes behind the first end of the input is part of no
place, so the parser of token lists does not see it either.
-/

/-- All that happens until the machine has come to its outcome is sound. -/
theorem kept_whole :
    Traced.whole.Kept listing.all listing.stop.span
      (listing.between [] listing.before 0 0) := by
  obtain ⟨factors, values⟩ := tracks_nested listing greatestNesting 0 (Nat.zero_add _)
  have exprs := Tracks.expr (Nat.zero_add _) factors values
  have within : Within 0 0 := ⟨Nat.zero_le _, Nat.le_refl 0, Nat.zero_le _⟩
  refine (exprs.keeps 0 within).bind (exprs.agreesAt within)
    (fun tree => ?_) [] listing.before rfl
  apply KeepsAt.current within
  intro behind ahead split
  cases (listing.next ahead).kind == .endOfInput with
  | true => exact .pure tree (listing.inBounds split within)
  | false => exact KeepsAt.fail within .trailingTokens behind ahead split

end

theorem sound_of_mem_events {tokens : List Token} {event : Event}
    (happens : event ∈ (Traced.ofTokens tokens).2) :
    event.Sound (terminated tokens) (Token.endSpan tokens) := by
  obtain ⟨listing, all, place, start⟩ := exists_listing tokens
  have happens :
      event ∈ Event.state { tokens := terminated tokens } :: Traced.whole.events _ :=
    happens
  rw [start] at happens
  rw [← all, ← place]
  rcases List.mem_cons.mp happens with rfl | later
  · exact listing.inBounds rfl ⟨Nat.zero_le _, Nat.le_refl 0, Nat.zero_le _⟩
  · exact kept_whole.2 event later

theorem outcome_of_traced (tokens : List Token) :
    (Traced.ofTokens tokens).1 = (Abacus.Expr.ofTokens tokens).mapError .fault := by
  rw [Traced.ofTokens, Traced.step_whole]
  exact ofTokens_eq tokens

/-- What follows an end of the input plays no part. -/
theorem ofTokens_of_beyond {stop : Token} (isEnd : stop.kind = .endOfInput)
    (before beyond others : List Token) :
    Abacus.Expr.ofTokens (before ++ stop :: beyond) =
      Abacus.Expr.ofTokens (before ++ stop :: others) := by
  have beforeEnd (rest : List Token) :
      Token.beforeEnd (before ++ stop :: rest) = Token.beforeEnd before := by
    rw [Token.beforeEnd, List.takeWhile_append,
      List.takeWhile_cons_of_neg (by simp [isEnd]), List.append_nil]
    split
    case isTrue all => exact ((List.takeWhile_prefix _).eq_of_length all).symm
    case isFalse => rfl
  have endSpan (rest : List Token) :
      Token.endSpan (before ++ stop :: rest) =
        ((before.find? (·.kind == .endOfInput)).getD stop).span := by
    rw [Token.endSpan, List.find?_append, List.find?_cons_of_pos (by simp [isEnd])]
    cases before.find? (·.kind == .endOfInput) <;> rfl
  rw [Abacus.Expr.ofTokens, Abacus.Expr.ofTokens, beforeEnd, beforeEnd, endSpan, endSpan]

/-- The counters in the course of a parse. The traced machine comes to what the
    parser of token lists comes to. Every call is entered and left within
    bounds, is balanced, and comes to what the parser comes to there; and every
    state is within bounds. What follows an end of the input, which is never
    passed, does not change the outcome. -/
theorem calls_keep_counters (tokens : List Token) :
    (Traced.ofTokens tokens).1 = (Abacus.Expr.ofTokens tokens).mapError .fault ∧
      (∀ call, .call call ∈ (Traced.ofTokens tokens).2 →
        call.entry.InBounds (terminated tokens) ∧
          call.exit.InBounds (terminated tokens) ∧ call.Balanced ∧
          call.Matches (Token.endSpan tokens)) ∧
      (∀ cursor, .state cursor ∈ (Traced.ofTokens tokens).2 →
        cursor.InBounds (terminated tokens)) ∧
      ∀ before stop beyond others, tokens = before ++ stop :: beyond →
      stop.kind = .endOfInput →
        (Traced.ofTokens (before ++ stop :: others)).1 = (Traced.ofTokens tokens).1 := by
  refine ⟨outcome_of_traced tokens, ?_, ?_, ?_⟩
  · intro call happens
    exact sound_of_mem_events happens
  · intro cursor happens
    exact sound_of_mem_events happens
  · rintro before stop beyond others rfl isEnd
    rw [outcome_of_traced, outcome_of_traced,
      ofTokens_of_beyond isEnd before others beyond]

/-- An open bracket behind a plus sign, and a token behind the end: the call for
    the whole expression is left with the height that the sign has counted,
    since a fault keeps the chain from setting it back. -/
theorem calls_keep_counters_of_open_bracket :
    let source : Source := { label := "<test>", content := "1+(" }
    let one : Token := ⟨.integer, some (.int 1), ⟨⟨0, 0, 0⟩, ⟨1, 0, 1⟩, source⟩⟩
    let sign : Token := ⟨.plus, none, ⟨⟨1, 0, 1⟩, ⟨2, 0, 2⟩, source⟩⟩
    let bracket : Token := ⟨.leftParen, none, ⟨⟨2, 0, 2⟩, ⟨3, 0, 3⟩, source⟩⟩
    let stop : Token := ⟨.endOfInput, none, .point ⟨3, 0, 3⟩ source⟩
    let tokens : List Token := [one, sign, bracket, stop, one]
    let whole : Call :=
      { routine := .expr
        entry := { tokens := terminated tokens }
        outcome := .error (.fault (.grammatical .expectedOperand stop.span))
        exit := { tokens := terminated tokens, position := 3, height := 1 } }
    .call whole ∈ (Traced.ofTokens tokens).2 ∧
      (whole.Balanced ∧ whole.Matches (Token.endSpan tokens) ∧
        whole.exit.InBounds (terminated tokens)) ∧
      (Traced.ofTokens [one, sign, bracket, stop]).1 = (Traced.ofTokens tokens).1 := by
  intro source one sign bracket stop tokens whole
  have called : .call whole ∈ (Traced.ofTokens tokens).2 := by decide +kernel
  obtain ⟨_, calls, _, beyond⟩ := calls_keep_counters tokens
  obtain ⟨_, left, balanced, agrees⟩ := calls whole called
  exact ⟨called, ⟨balanced, agrees, left⟩,
    beyond [one, sign, bracket] stop [one] [] rfl rfl⟩

end Cursor

end Abacus
