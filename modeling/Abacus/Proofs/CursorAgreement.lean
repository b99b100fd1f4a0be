/-
Module: Abacus.Proofs.CursorAgreement
Purpose: The machine with a position and counters agrees with the parser of
  token lists. There is one statement for each routine: wherever it stands among
  the tokens, and as long as its counters and the budgets of the parser add up
  to the limits, it comes to what the parser comes to, has passed the tokens
  that the parser has taken, and has its counters where they were. So the
  machine never trips (`Cursor.ofTokens_eq`), and a list of tokens is refused at
  one of its tokens or at its end.
Main exports: Cursor.SameOutcome, Cursor.AgreesAt, Cursor.Agrees,
  Cursor.agrees_nested, Cursor.ofTokens_eq, Cursor.span_of_ofTokens_error
-/
import Abacus.Proofs.Cursor
import Abacus.Proofs.OffendingToken
import Mathlib.Data.List.TakeWhile

namespace Abacus

namespace Cursor

open Expr.Parser (Failure Parse)

/-- The routine has come to what the parser has come to. It has passed the
    tokens that the parser has taken, or those before the one that the parser
    complains of. The nesting is what it was; the height is as `leaves` says,
    and after a fault it is at least what it was. -/
inductive SameOutcome {α : Type} (ending : Ending) (nesting height : Nat)
    (leaves : Nat → Prop) (behind ahead : List Token) :
    Except Stop α × Cursor → Except Failure (α × List Token) → Prop where
  | ok {passed rest : List Token} {a : α} {height' : Nat}
      (split : ahead = passed ++ rest) (left : leaves height') :
      SameOutcome ending nesting height leaves behind ahead
        (.ok a, ending.between (behind ++ passed) rest nesting height') (.ok (a, rest))
  | error {passed : List Token} {failure : Failure} {height' : Nat}
      (split : ahead = passed ++ failure.ahead) (atLeast : height ≤ height') :
      SameOutcome ending nesting height leaves behind ahead
        (.error (.fault (failure.diagnostic ending.stop.span)),
          ending.between (behind ++ passed) failure.ahead nesting height')
        (.error failure)

/-- Wherever the routine is run with these counters, it comes to what the parser
    comes to. -/
def AgreesAt {α : Type} (ending : Ending) (nesting height : Nat) (leaves : Nat → Prop)
    (step : Step α) (parse : List Token → Except Failure (α × List Token)) : Prop :=
  ∀ behind ahead, SameOutcome ending nesting height leaves behind ahead
    (step (ending.between behind ahead nesting height)) (parse ahead)

/-- The routine agrees with a parser at every height, if the parser has what is
    left of it; and the height is afterwards what it was. -/
def Agrees (ending : Ending) (nesting : Nat) (step : Step Expr)
    (parse : Nat → Parse) : Prop :=
  ∀ room height, height + room = greatestHeight →
    AgreesAt ending nesting height (· = height) step (parse room)

/-!
### Sequences

How agreement is put together along a sequence. The first step has passed some
tokens; what is ahead then is what the parser has left, so the second step is
compared where the first one has led. A fault of the first step is the fault of
the sequence on either side.
-/

section

variable {α β : Type} {ending : Ending} {nesting height : Nat} {leaves : Nat → Prop}
  {behind ahead rest : List Token}

namespace SameOutcome

variable {outcome : Except Stop α × Cursor} {parsed : Except Failure (α × List Token)}

/-- Tokens that were passed before are passed as well. -/
theorem after {passed : List Token}
    (same : SameOutcome ending nesting height leaves
      (behind ++ passed) rest outcome parsed) :
    SameOutcome ending nesting height leaves behind (passed ++ rest) outcome parsed := by
  cases same with
  | ok split left =>
      rw [List.append_assoc]
      exact .ok (by rw [split, List.append_assoc]) left
  | error split atLeast =>
      rw [List.append_assoc]
      exact .error (by rw [split, List.append_assoc]) atLeast

/-- A routine that begins higher up leaves the height higher up. -/
theorem mono {height' : Nat} {leaves' : Nat → Prop} (le : height' ≤ height)
    (implies : ∀ height, leaves height → leaves' height)
    (same : SameOutcome ending nesting height leaves behind ahead outcome parsed) :
    SameOutcome ending nesting height' leaves' behind ahead outcome parsed := by
  cases same with
  | ok split left => exact .ok split (implies _ left)
  | error split atLeast => exact .error split (Nat.le_trans le atLeast)

/-- After a token was passed, the sequence goes on behind it. -/
theorem advance {token : Token} {next : Token → Step α}
    (onward : SameOutcome ending nesting height leaves (behind ++ [token]) rest
      (next token (ending.between (behind ++ [token]) rest nesting height)) parsed) :
    SameOutcome ending nesting height leaves behind (token :: rest)
      ((Cursor.advance >>= next)
        (ending.between behind (token :: rest) nesting height)) parsed := by
  rw [bind_of_ok (advance_between ending behind rest token nesting height)]
  exact onward.after

/-- The counters come down after an inner routine, since it has left the nesting
    where it was and the height no lower than that. -/
theorem settle {outcome : Except Stop Expr × Cursor}
    {parsed : Except Failure (Expr × List Token)}
    (same : SameOutcome ending (nesting + 1)
      (height + 1) (· = height + 1) behind ahead outcome parsed) :
    SameOutcome ending nesting height (· = height) behind ahead
      (Cursor.settle outcome.1 outcome.2) parsed := by
  cases same with
  | @ok passed rest tree height' split left =>
      rw [left, Cursor.settle,
        bind_of_ok (ascend_between ending (behind ++ passed) rest nesting height)]
      exact .ok split rfl
  | @error passed failure height' split atLeast =>
      obtain ⟨lower, rfl⟩ : ∃ lower, height' = lower + 1 := ⟨height' - 1, by omega⟩
      rw [Cursor.settle, bind_of_ok
          (ascend_between ending (behind ++ passed) failure.ahead nesting lower)]
      exact .error split (Nat.le_of_succ_le_succ atLeast)

end SameOutcome

namespace AgreesAt

/-- What stops a first routine stops the sequence; else the second one begins
    where the first one was done. -/
theorem bind {step : Step α} {parse : List Token → Except Failure (α × List Token)}
    {next : α → Step β} {onward : α → List Token → Except Failure (β × List Token)}
    (first : AgreesAt ending nesting height (· = height) step parse)
    (second : ∀ a, AgreesAt ending nesting height leaves (next a) (onward a)) :
    AgreesAt ending nesting height leaves (step >>= next)
      (fun tokens => parse tokens >>= fun read => onward read.1 read.2) := by
  intro behind ahead
  have same := first behind ahead
  cases outcome : step (ending.between behind ahead nesting height) with
  | mk result reached =>
      dsimp only
      rw [outcome] at same
      generalize parse ahead = parsed at same
      cases same with
      | ok split left =>
          rw [bind_of_ok outcome, split, left]
          exact (second _ _ _).after
      | error split atLeast =>
          rw [bind_of_error outcome]
          exact .error split atLeast

theorem pure (a : α) :
    AgreesAt ending nesting height (· = height) (Pure.pure a)
      (fun tokens => .ok (a, tokens)) := by
  intro behind ahead
  have same : SameOutcome ending nesting height (· = height) behind ahead
      (.ok a, ending.between (behind ++ []) ahead nesting height) (.ok (a, ahead)) :=
    .ok rfl rfl
  rwa [List.append_nil] at same

theorem fail (fault : SyntaxFault) :
    AgreesAt ending nesting height leaves (Cursor.fail fault : Step α)
      (fun tokens => .error ⟨fault, tokens⟩) := by
  intro behind ahead
  have same : SameOutcome ending nesting height leaves behind ahead
      ((.error (.fault (Failure.diagnostic ⟨fault, ahead⟩ ending.stop.span)) : Except
        Stop α),
        ending.between (behind ++ []) ahead nesting height) (.error ⟨fault, ahead⟩) :=
    .error rfl (Nat.le_refl _)
  rwa [List.append_nil, ← fail_between] at same

/-- Where the height is used up, growing is refused as too deep, whatever would
    come after it. -/
theorem grow_of_full (full : greatestHeight ≤ height) (next : Unit → Step α) :
    AgreesAt ending nesting height leaves (grow >>= next)
      (fun tokens => .error ⟨.tooDeep, tokens⟩) := by
  intro behind ahead
  have refused : SameOutcome ending nesting height leaves behind ahead
      ((Cursor.fail .tooDeep : Step α) (ending.between behind ahead nesting height))
      (.error ⟨.tooDeep, ahead⟩) :=
    fail .tooDeep behind ahead
  rw [bind_of_error (grow_between_of_full ending behind ahead nesting height full)]
  rwa [fail_between] at refused

/-- What is done with the current token depends on the tokens ahead only. -/
theorem current {next : Token → Step α}
    {parse : List Token → Except Failure (α × List Token)}
    (cases : ∀ behind ahead, SameOutcome ending nesting height leaves behind ahead
      (next (ending.next ahead) (ending.between behind ahead nesting height))
      (parse ahead)) :
    AgreesAt ending nesting height leaves (Cursor.current >>= next) parse := by
  intro behind ahead
  rw [bind_of_ok (current_between ending behind ahead nesting height)]
  exact cases behind ahead

/-- An expected token is passed, and any other complained of. -/
theorem expect {test : Token → Bool} (stops : test ending.stop = false)
    (fault : SyntaxFault) :
    AgreesAt ending nesting height (· = height) (Cursor.expect test fault)
      (Expr.Parser.expect test fault) := by
  apply current
  intro behind ahead
  cases ahead with
  | nil =>
      rw [Ending.next_nil, stops]
      exact fail fault behind []
  | cons token rest =>
      rw [Ending.next_cons, Expr.Parser.expect]
      cases test token with
      | false => exact fail fault behind (token :: rest)
      | true =>
          rw [if_pos rfl, if_pos rfl, advance_between]
          exact .ok rfl rfl

theorem expectKind (ending : Ending) (nesting height : Nat) (kind : Kind)
    (other : kind ≠ .endOfInput) (fault : SyntaxFault) :
    AgreesAt ending nesting height (· = height) (Cursor.expect (·.kind == kind) fault)
      (Expr.Parser.expect (·.kind == kind) fault) := by
  apply expect
  rw [ending.isEnd]
  exact beq_eq_false_iff_ne.mpr other.symm

/-- The height that a routine leaves does not matter if it is set back. -/
theorem keepingHeight {step : Step Expr} {parse : Parse}
    (inner : AgreesAt ending nesting height leaves step parse) :
    AgreesAt ending nesting height (· = height) (Cursor.keepingHeight step) parse := by
  intro behind ahead
  rw [Cursor.keepingHeight, get_bind]
  cases outcome : step (ending.between behind ahead nesting height) with
  | mk result reached =>
      have same := inner behind ahead
      rw [outcome] at same
      generalize parse ahead = parsed at same
      cases same with
      | ok split left =>
          rw [bind_of_ok outcome]
          exact .ok split rfl
      | error split atLeast =>
          rw [bind_of_error outcome]
          exact .error split atLeast

end AgreesAt

end

/-!
### Routines

One lemma for each routine of the machine, all of the same form: if the routines
inside agree with those of the parser, so does the routine. The repetition over
operators is bounded by its turns on one side and by the height on the other;
since there are more turns than units of height, the turns never run out first.
-/

section

variable {ending : Ending} {nesting : Nat}

/-- Operators and operands: every operator leaves the operands after it one unit
    less of height, which is what the counter has gone up by. -/
theorem AgreesAt.operators {isOperator : Token → Bool}
    (stops : isOperator ending.stop = false) {operand : Step Expr}
    {parse : Nat → Parse} (operandAgrees : Agrees ending nesting operand parse) :
    ∀ (room turns height : Nat) (left : Expr), height + room = greatestHeight →
      room < turns →
      AgreesAt ending nesting height
        (height ≤ ·) (Cursor.operators isOperator operand turns left)
        (Expr.Parser.chainRest isOperator parse room left)
  | room, turns + 1, height, left, counted, enough => by
      apply AgreesAt.current
      intro behind ahead
      have done : SameOutcome ending nesting height (height ≤ ·) behind ahead
          ((Pure.pure left : Step Expr) (ending.between behind ahead nesting height))
          (.ok (left, ahead)) :=
        (AgreesAt.pure left behind ahead).mono (Nat.le_refl _) fun _ same =>
          Nat.le_of_eq same.symm
      cases ahead with
      | nil =>
          rw [Ending.next_nil, stops,
            Grammar.chainRest_of_not_operator room left (by simp)]
          exact done
      | cons op rest =>
          rw [Ending.next_cons]
          cases joins : isOperator op with
          | false =>
              rw [Grammar.chainRest_of_not_operator room left (by simpa using joins)]
              exact done
          | true =>
              rw [if_pos rfl]
              cases room with
              | zero =>
                  rw [Grammar.chainRest_zero parse left joins]
                  exact AgreesAt.grow_of_full (by omega) _ behind (op :: rest)
              | succ room =>
                  rw [Grammar.chainRest_succ parse room left joins,
                    bind_of_ok (grow_between ending behind
                      (op :: rest) nesting height (by omega))]
                  have onward :=
                    (operandAgrees room (height + 1) (by omega)).bind fun right =>
                      operators stops operandAgrees room turns (height + 1)
                        (.joinBinary op left right) (by omega)
                        (by omega)
                  refine SameOutcome.mono (Nat.le_succ height)
                    (fun _ le => Nat.le_of_succ_le le) ?_
                  exact SameOutcome.advance (onward _ rest)

namespace Agrees

variable {factor value inner : Step Expr}
    {factorParse valueParse innerParse : Nat → Parse}

/-- A chain has turns enough, since there are more of them than units of height. -/
theorem chain {isOperator : Token → Bool} (stops : isOperator ending.stop = false)
    {first operand : Step Expr} {firstParse parse : Nat → Parse}
    (firstAgrees : Agrees ending nesting first firstParse)
    (operandAgrees : Agrees ending nesting operand parse) :
    Agrees ending nesting (Cursor.chain isOperator first operand) fun room tokens =>
      firstParse room tokens >>= fun read =>
        Expr.Parser.chainRest isOperator parse room read.1 read.2 := by
  intro room height counted
  apply AgreesAt.keepingHeight
  apply (firstAgrees room height counted).bind
  intro left
  exact AgreesAt.operators stops operandAgrees room
    (greatestHeight + 1) height left counted (by omega)

theorem sum (factorAgrees : Agrees ending nesting factor factorParse) :
    Agrees ending nesting (Cursor.sum factor) (Expr.Parser.sumWith factorParse) := by
  have term := chain ending.isScaling_stop factorAgrees factorAgrees
  exact chain ending.isSign_stop term term

/-- What comes after the keyword of a binding. -/
theorem bindingTail (valueAgrees : Agrees ending nesting value valueParse)
    (keyword : Token) :
    Agrees ending nesting
      (do
        let name ← Cursor.expect (·.kind == .identifier) .expectedName
        let _ ← Cursor.expect (·.kind == .assignment) .expectedAssignment
        let value ← value
        pure (.joinAssign keyword name value))
      (fun room => Expr.Parser.bindingWith valueParse room keyword) := by
  intro room height counted
  have name :=
    AgreesAt.expectKind ending nesting height .identifier (by decide) .expectedName
  have sign := AgreesAt.expectKind ending nesting height .assignment
    (by decide) .expectedAssignment
  have onward := valueAgrees room height counted
  exact name.bind fun name => sign.bind fun _ => onward.bind fun value =>
    AgreesAt.pure (Expr.joinAssign keyword name value)

theorem expr (factorAgrees : Agrees ending nesting factor factorParse)
    (valueAgrees : Agrees ending nesting value valueParse) :
    Agrees ending nesting (Cursor.expr factor value)
      (Expr.Parser.exprWith factorParse valueParse) := by
  intro room height counted
  have plain := factorAgrees.sum room height counted
  apply AgreesAt.current
  intro behind ahead
  cases ahead with
  | nil =>
      rw [Ending.next_nil, ending.isKeyword_stop]
      exact plain behind []
  | cons token rest =>
      rw [Ending.next_cons, Expr.Parser.exprWith]
      cases token.isKeyword "let" with
      | false => exact plain behind (token :: rest)
      | true =>
          exact SameOutcome.advance
            (valueAgrees.bindingTail token room height counted _ rest)

/-- What comes after an opening bracket. -/
theorem bracketsTail (innerAgrees : Agrees ending nesting inner innerParse) :
    Agrees ending nesting
      (do
        let tree ← inner
        let _ ← Cursor.expect (·.kind == .rightParen) .unclosedBracket
        pure tree)
      (fun room tokens => do
        let (tree, rest) ← innerParse room tokens
        let (_, rest) ← Expr.Parser.expect (·.kind == .rightParen) .unclosedBracket rest
        .ok (tree, rest)) := by
  intro room height counted
  have bracket :=
    AgreesAt.expectKind ending nesting height .rightParen (by decide) .unclosedBracket
  exact (innerAgrees room height counted).bind fun tree => bracket.bind fun _ =>
    AgreesAt.pure tree

theorem atom (innerAgrees : Agrees ending nesting inner innerParse) :
    Agrees ending nesting (Cursor.atom inner) (Expr.Parser.atomWith innerParse) := by
  intro room height counted
  apply AgreesAt.current
  intro behind ahead
  cases ahead with
  | nil =>
      rw [Ending.next_nil, ending.isEnd]
      exact AgreesAt.fail .expectedOperand behind []
  | cons token rest =>
      have leaf (node : Token → Expr) :
          SameOutcome ending nesting height (· = height) behind (token :: rest)
            ((node <$> Cursor.advance)
              (ending.between behind (token :: rest) nesting height))
            (.ok (node token, rest)) :=
        SameOutcome.advance (AgreesAt.pure (node token) _ rest)
      rw [Ending.next_cons, Expr.Parser.atomWith]
      cases token.kind with
      | integer => exact leaf .number
      | float => exact leaf .number
      | identifier => exact leaf .access
      | leftParen =>
          exact SameOutcome.advance (innerAgrees.bracketsTail room height counted _ rest)
      | _ => exact AgreesAt.fail .expectedOperand behind (token :: rest)

theorem signed (factorAgrees : Agrees ending nesting factor factorParse)
    (innerAgrees : Agrees ending nesting inner innerParse) :
    Agrees ending nesting (Cursor.signed factor inner)
      (Expr.Parser.factorWith factorParse innerParse) := by
  intro room height counted
  have power :=
    chain ending.isPower_stop innerAgrees.atom factorAgrees room height counted
  apply AgreesAt.current
  intro behind ahead
  cases ahead with
  | nil =>
      rw [Ending.next_nil, ending.isSign_stop]
      exact power behind []
  | cons token rest =>
      rw [Ending.next_cons, Expr.Parser.factorWith]
      cases Expr.Parser.isSign token with
      | false => exact power behind (token :: rest)
      | true =>
          have operand := (factorAgrees room height counted).bind fun operand =>
            AgreesAt.pure (Expr.joinUnary token operand)
          exact SameOutcome.advance (operand _ rest)

/-- Within the limits a routine is run one level deeper; beyond them it is
    refused before it is run. -/
theorem descend {levels : Nat} (nested : nesting + levels = greatestNesting)
    {step : Step Expr}
    {parse outer : Nat → Parse}
    (outer_eq : ∀ room tokens, outer room tokens =
      if 0 < levels ∧ 0 < room then parse (room - 1) tokens
      else .error ⟨.tooDeep, tokens⟩)
    (inner : 0 < levels → Agrees ending (nesting + 1) step parse) :
    Agrees ending nesting (Cursor.descend step) outer := by
  intro room height counted behind ahead
  rw [outer_eq, Cursor.descend, get_bind, Ending.nesting_between]
  by_cases below : 0 < levels
  case neg =>
    rw [if_pos (by omega), if_neg fun both => below both.1]
    exact AgreesAt.fail .tooDeep behind ahead
  case pos =>
    rw [if_neg (by omega)]
    by_cases low : 0 < room
    case neg =>
      rw [if_neg fun both => low both.2]
      exact AgreesAt.grow_of_full (by omega) _ behind ahead
    case pos =>
      rw [if_pos ⟨below, low⟩,
        bind_of_ok (grow_between ending behind ahead nesting height (by omega))]
      exact (inner below (room - 1) (height + 1) (by omega) behind ahead).settle

end Agrees

end

theorem value_eq (levels room : Nat) (tokens : List Token) :
    Expr.Parser.value levels room tokens =
      if 0 < levels ∧ 0 < room then Expr.Parser.expr (levels - 1) (room - 1) tokens
      else .error ⟨.tooDeep, tokens⟩ :=
  Grammar.Phrase.value_eq levels room tokens

/-- Factors and values agree at every nesting: there are as many levels left as
    the nesting may still go up. -/
theorem agrees_nested (ending : Ending) (levels : Nat) :
    ∀ nesting, nesting + levels = greatestNesting →
      Agrees ending nesting (Cursor.factor (levels + 1)) (Expr.Parser.factor levels) ∧
        Agrees ending nesting (Cursor.value (levels + 1)) (Expr.Parser.value levels) := by
  induction levels with
  | zero =>
      intro nesting full
      have none {step : Step Expr} {parse : Nat → Parse} (some : 0 < 0) :
          Agrees ending (nesting + 1) step parse :=
        absurd some (Nat.lt_irrefl 0)
      exact ⟨.descend full (Grammar.Phrase.factor_eq 0) none, .descend full
          (value_eq 0) none⟩
  | succ levels deeper =>
      intro nesting below
      obtain ⟨factors, values⟩ := deeper (nesting + 1) (by omega)
      have exprs : Agrees ending (nesting + 1)
          (Cursor.expr (Cursor.factor (levels + 1)) (Cursor.value (levels + 1)))
          (Expr.Parser.expr levels) := factors.expr values
      constructor
      · apply Agrees.descend below (Grammar.Phrase.factor_eq (levels + 1))
        exact fun _ => factors.signed exprs
      · apply Agrees.descend below (value_eq (levels + 1))
        exact fun _ => exprs

/-!
### Lists of tokens

The machine begins with its counters at zero, where the parser has the whole of
its budgets. A list without an end of the input is given one first, where its
last token stops, and the parser takes the input to end there too.
-/

/-- The machine begins with both counters at zero, so it has the whole of the
    budgets. -/
theorem agrees_expr (ending : Ending) :
    AgreesAt ending 0 0 (· = 0)
      (Cursor.expr (factor (greatestNesting + 1)) (value (greatestNesting + 1)))
      (Expr.Parser.expr greatestNesting greatestHeight) := by
  obtain ⟨factors, values⟩ := agrees_nested ending greatestNesting 0 (Nat.zero_add _)
  exact factors.expr values greatestHeight 0 (Nat.zero_add _)

/-- What the machine comes to on a whole list of tokens, and what it complains
    of: one of them, or their end. -/
theorem whole_eq (ending : Ending) {tokens : List Token}
    (others : ∀ token ∈ tokens, token.kind ≠ .endOfInput) :
    (whole (ending.between [] tokens 0 0)).1 =
        (Expr.Parser.whole greatestNesting greatestHeight tokens).mapError
          (fun failure => .fault (failure.diagnostic ending.stop.span)) ∧
      ∀ failure,
        Expr.Parser.whole greatestNesting greatestHeight tokens = .error failure →
          failure.ahead <:+ tokens := by
  have same := agrees_expr ending [] tokens
  rw [whole, Expr.Parser.whole]
  cases outcome : Cursor.expr (factor (greatestNesting + 1)) (value (greatestNesting + 1))
      (ending.between [] tokens 0 0) with
  | mk result reached =>
      rw [outcome] at same
      generalize Expr.Parser.expr greatestNesting greatestHeight tokens = parsed at same
      cases same with
      | error split atLeast =>
          rw [bind_of_error outcome]
          refine ⟨rfl, ?_⟩
          rintro _ ⟨⟩
          exact ⟨_, split.symm⟩
      | @ok passed rest tree height' split left =>
          rw [bind_of_ok outcome, bind_of_ok (current_between ending _ rest 0 height')]
          cases rest with
          | nil =>
              rw [Ending.next_nil, ending.isEnd]
              refine ⟨rfl, ?_⟩
              rintro _ ⟨⟩
          | cons token rest =>
              have other : (token.kind == .endOfInput) = false :=
                beq_eq_false_iff_ne.mpr (others token (by simp [split]))
              rw [Ending.next_cons, other]
              constructor
              · simp only [Bool.false_eq_true, if_false]
                rw [fail_between]
                rfl
              · rintro _ ⟨⟩
                exact ⟨passed, split.symm⟩

theorem exists_terminated_eq (tokens : List Token) :
    ∃ added, terminated tokens = tokens ++ added := by
  unfold terminated
  split
  case h_1 last _ =>
    split
    case isTrue => exact ⟨[], (List.append_nil tokens).symm⟩
    case isFalse => exact ⟨_, rfl⟩
  case h_2 empty =>
    rw [List.getLast?_eq_none_iff.mp empty]
    exact ⟨_, rfl⟩

/-- Tokens without an end of the input get one, where the input ends. -/
theorem terminated_of_none {tokens : List Token}
    (others : ∀ token ∈ tokens, token.kind ≠ .endOfInput) :
    terminated tokens =
      tokens ++ [{ kind := .endOfInput, span := Token.endSpan tokens }] := by
  have none : tokens.find? (·.kind == .endOfInput) = none := by
    rw [List.find?_eq_none]
    intro token member
    simpa using others token member
  rw [Token.endSpan, none, terminated]
  cases last : tokens.getLast? with
  | none => rw [List.getLast?_eq_none_iff.mp last, List.nil_append]
  | some token =>
      have other := others token (List.mem_of_getLast? last)
      simp [other]

/-- With an end of the input, the tokens are those before the end, the end, and
    what plays no part. The end stands where the input ends. -/
theorem exists_ending (tokens : List Token) :
    ∃ ending : Ending, ending.stop.span = Token.endSpan tokens ∧
      ({ tokens := terminated tokens } : Cursor) =
        ending.between [] (Token.beforeEnd tokens) 0 0 := by
  cases found : tokens.find? (·.kind == .endOfInput) with
  | some stop =>
      obtain ⟨isEnd, before, beyond, rfl, others⟩ :=
        List.find?_eq_some_iff_append.mp found
      replace others : ∀ token ∈ before, token.kind ≠ .endOfInput := by
        simpa using others
      replace isEnd : stop.kind = .endOfInput := by simpa using isEnd
      obtain ⟨added, terminated_eq⟩ := exists_terminated_eq (before ++ stop :: beyond)
      have nothing : Token.beforeEnd (stop :: beyond) = [] :=
        List.takeWhile_cons_of_neg (by simp [isEnd])
      refine ⟨⟨stop, beyond ++ added, isEnd⟩,
        (Grammar.endSpan_append others isEnd beyond).symm, ?_⟩
      rw [Grammar.beforeEnd_append others, nothing, terminated_eq]
      simp [Ending.between]
  | none =>
      have others : ∀ token ∈ tokens, token.kind ≠ .endOfInput := by simpa using found
      have all : Token.beforeEnd tokens = tokens := by
        simpa [Token.beforeEnd] using Grammar.beforeEnd_append others []
      refine ⟨⟨{ kind := .endOfInput, span := Token.endSpan tokens }, [], rfl⟩, rfl, ?_⟩
      rw [terminated_of_none others, all]
      rfl

theorem kind_ne_of_mem_beforeEnd {tokens : List Token} {token : Token}
    (member : token ∈ Token.beforeEnd tokens) : token.kind ≠ .endOfInput := by
  rw [Token.beforeEnd] at member
  have other := List.mem_takeWhile_imp member
  exact bne_iff_ne.mp other

/-- The machine never trips: on every list of tokens it comes to what the parser
    of token lists comes to. -/
theorem ofTokens_eq (tokens : List Token) :
    Cursor.ofTokens tokens = (Abacus.Expr.ofTokens tokens).mapError .fault := by
  obtain ⟨ending, place, start⟩ := exists_ending tokens
  rw [Cursor.ofTokens, start, (whole_eq ending fun _ => kind_ne_of_mem_beforeEnd).1,
    Abacus.Expr.ofTokens, place]
  cases Expr.Parser.whole greatestNesting greatestHeight (Token.beforeEnd tokens)
    <;> rfl

/-- An open bracket and a literal, after which the input ends without a token
    for it: the machine puts one there. -/
example :
    let source : Source := { label := "<test>", content := "(1" }
    Cursor.ofTokens
        [⟨.leftParen, none, ⟨⟨0, 0, 0⟩, ⟨1, 0, 1⟩, source⟩⟩,
          ⟨.integer, some (.int 1), ⟨⟨1, 0, 1⟩, ⟨2, 0, 2⟩, source⟩⟩] =
      .error (.fault (.grammatical .unclosedBracket (.point ⟨2, 0, 2⟩ source))) := by
  decide +kernel

/-- A list of tokens is refused at a token before its end, or at its end. -/
theorem span_of_ofTokens_error {tokens : List Token} {diagnostic : Diagnostic}
    (failed : Abacus.Expr.ofTokens tokens = .error diagnostic) :
    diagnostic.span = Token.endSpan tokens ∨
      ∃ token ∈ Token.beforeEnd tokens, diagnostic.span = token.span := by
  obtain ⟨ending, _, _⟩ := exists_ending tokens
  obtain ⟨_, suffix⟩ := whole_eq ending fun _ => kind_ne_of_mem_beforeEnd
  unfold Abacus.Expr.ofTokens at failed
  cases outcome : Expr.Parser.whole greatestNesting greatestHeight
    (Token.beforeEnd tokens) with
  | ok tree =>
      rw [outcome] at failed
      cases failed
  | error failure =>
      rw [outcome] at failed
      cases failed
      have ahead := suffix failure outcome
      obtain ⟨fault, rest⟩ := failure
      cases rest with
      | nil => exact .inl rfl
      | cons token rest => exact .inr ⟨token, ahead.subset (List.mem_cons_self), rfl⟩

end Cursor

end Abacus
