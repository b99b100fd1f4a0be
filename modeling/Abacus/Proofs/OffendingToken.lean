/-
Module: Abacus.Proofs.OffendingToken
Purpose: The fault of a refused list of tokens. It is met at the first token
  with which no sentence of the grammar goes on: the tokens before it begin a
  sentence, and together with it they begin none. That no sentence goes on with
  the token follows from completeness, since the parser would stop there on that
  sentence as well, and it stops on no sentence. Which fault it is can be told
  from the tokens before it (`Tells.unique`).
Main exports: Grammar.Settled, Grammar.Phrase.settled, Grammar.faultAfter,
  Grammar.Tells, Grammar.Tells.unique, Grammar.exists_offending_token,
  Grammar.first_hopeless_token
-/
import Abacus.Proofs.ParserFaults

namespace Abacus.Grammar

open Expr.Parser

/-!
### What the tokens before a fault tell

What the parser can complain of is told by the last two tokens that it has read
and by the brackets that are open after them. So no two faults can be met after
the same tokens.
-/

/-- Whether a bracket is open after the tokens: from some token on more brackets
    are opened than closed. -/
def leavesOpen (tokens : List Token) : Bool :=
  tokens.tails.any fun rest =>
    rest.countP (·.kind == .rightParen) < rest.countP (·.kind == .leftParen)

/-- The fault that can be met after the tokens. -/
def faultAfter (tokens : List Token) : SyntaxFault :=
  match tokens.reverse with
  | [] => .expectedOperand
  | last :: earlier =>
      if opensOperand last then .expectedOperand
      else if last.isKeyword "let" then .expectedName
      else if earlier.head?.any (·.isKeyword "let") then .expectedAssignment
      else if leavesOpen tokens then .unclosedBracket
      else .trailingTokens

/-- What holds of the tokens of every phrase: brackets are closed in it, none
    before it is opened, a keyword of a binding is followed by two more tokens
    at least, and the last token closes an operand. -/
structure Settled (tokens : List Token) : Prop where
  even : tokens.countP (·.kind == .leftParen) = tokens.countP (·.kind == .rightParen)
  closed : ∀ rest, rest <:+ tokens →
    rest.countP (·.kind == .leftParen) ≤ rest.countP (·.kind == .rightParen)
  bound : ∀ keyword rest, keyword :: rest <:+ tokens →
    keyword.isKeyword "let" = true → 2 ≤ rest.length
  ended : ∃ before last, tokens = before ++ [last] ∧ closesOperand last = true

namespace Settled

variable {tokens first second : List Token} {token : Token}

/-- The end of two lists is an end of the second one, or all of it behind an end
    of the first one. -/
theorem suffix_append_cases {rest : List Token} (ends : rest <:+ first ++ second) :
    rest <:+ second ∨ ∃ front, rest = front ++ second ∧ front <:+ first := by
  obtain ⟨before, joined⟩ := ends
  rcases List.append_eq_append_iff.mp joined with ⟨front, rfl, rfl⟩ | ⟨front, rfl, rfl⟩
  · exact .inr ⟨front, rfl, List.suffix_append _ _⟩
  · exact .inl (List.suffix_append _ _)

theorem append (settledFirst : Settled first) (settledSecond : Settled second) :
    Settled (first ++ second) where
  even := by
    rw [List.countP_append, List.countP_append, settledFirst.even, settledSecond.even]
  closed := by
    intro rest ends
    rcases suffix_append_cases ends with inside | ⟨front, rfl, inside⟩
    · exact settledSecond.closed rest inside
    · rw [List.countP_append, List.countP_append]
      exact Nat.add_le_add (settledFirst.closed front inside)
        (Nat.le_of_eq settledSecond.even)
  bound := by
    intro keyword rest ends opens
    rcases suffix_append_cases ends with inside | ⟨front, joined, inside⟩
    · exact settledSecond.bound keyword rest inside opens
    · cases front with
      | nil => exact settledSecond.bound keyword rest (by simp [joined]) opens
      | cons head front =>
          obtain ⟨rfl, rfl⟩ := List.cons.inj joined
          have enough := settledFirst.bound keyword front inside opens
          exact Nat.le_trans enough (List.prefix_append front second).length_le
  ended := by
    obtain ⟨before, last, rfl, closes⟩ := settledSecond.ended
    exact ⟨first ++ before, last, by simp, closes⟩

/-- A token that is no bracket may stand before, a keyword only if two tokens
    follow it. -/
theorem cons (settled : Settled tokens) (notOpening : token.kind ≠ .leftParen)
    (notClosing : token.kind ≠ .rightParen)
    (binds : token.isKeyword "let" = true → 2 ≤ tokens.length) :
    Settled (token :: tokens) where
  even := by simp [notOpening, notClosing, settled.even]
  closed := by
    intro rest ends
    rcases List.suffix_cons_iff.mp ends with rfl | ends
    · simp [notOpening, notClosing, settled.even]
    · exact settled.closed rest ends
  bound := by
    intro keyword rest ends opens
    rcases List.suffix_cons_iff.mp ends with same | ends
    · obtain ⟨rfl, rfl⟩ := List.cons.inj same
      exact binds opens
    · exact settled.bound keyword rest ends opens
  ended := by
    obtain ⟨before, last, rfl, closes⟩ := settled.ended
    exact ⟨token :: before, last, rfl, closes⟩

/-- An operator may stand before. -/
theorem cons_operator (settled : Settled tokens)
    (opens : (isSign token || isScaling token || isPower token) = true) :
    Settled (token :: tokens) := by
  have operator : token.kind ≠ .leftParen ∧ token.kind ≠ .rightParen ∧
      token.isKeyword "let" = false := by
    cases kind : token.kind <;> simp [isSign, isScaling, isPower, kind] at opens <;>
      simp [Token.isKeyword, kind]
  refine settled.cons operator.1 operator.2.1 fun isLet => ?_
  rw [operator.2.2] at isLet
  cases isLet

/-- A literal or a name stands for itself. -/
theorem singleton
    (plain : token.kind = .integer ∨ token.kind = .float ∨ token.kind = .identifier) :
    Settled [token] where
  even := by rcases plain with kind | kind | kind <;> simp [kind]
  closed := by
    intro rest ends
    rcases List.suffix_cons_iff.mp ends with rfl | ends
    · rcases plain with kind | kind | kind <;> simp [kind]
    · rw [List.suffix_nil.mp ends]
      exact Nat.le_refl _
  bound := by
    intro keyword rest ends opens
    rcases List.suffix_cons_iff.mp ends with same | ends
    · obtain ⟨rfl, _⟩ := List.cons.inj same
      rcases plain with kind | kind | kind <;> simp [Token.isKeyword, kind] at opens
    · simp at ends
  ended :=
    ⟨[], token, rfl,
      by rcases plain with kind | kind | kind <;> simp [closesOperand, kind]⟩

/-- What stands in brackets is settled with them. -/
theorem brackets {opening closing : Token} (opens : opening.kind = .leftParen)
    (closes : closing.kind = .rightParen) (settled : Settled tokens) :
    Settled (opening :: (tokens ++ [closing])) where
  even := by simp [opens, closes, settled.even]
  closed := by
    intro rest ends
    rcases List.suffix_cons_iff.mp ends with rfl | ends
    · simp [opens, closes, settled.even]
    · rcases List.suffix_concat_iff.mp ends with rfl | ⟨front, rfl, inside⟩
      · exact Nat.le_refl _
      · have fewer := settled.closed front inside
        simp [closes]
        omega
  bound := by
    intro keyword rest ends isLet
    rcases List.suffix_cons_iff.mp ends with same | ends
    · obtain ⟨rfl, _⟩ := List.cons.inj same
      simp [Token.isKeyword, opens] at isLet
    · rcases List.suffix_concat_iff.mp ends with nothing | ⟨front, joined, inside⟩
      · cases nothing
      · cases front with
        | nil =>
            obtain ⟨rfl, _⟩ := List.cons.inj joined
            simp [Token.isKeyword, closes] at isLet
        | cons head front =>
            obtain ⟨rfl, rfl⟩ := List.cons.inj joined
            have enough := settled.bound keyword front inside isLet
            exact Nat.le_trans enough (List.prefix_append front [closing]).length_le
  ended := ⟨opening :: tokens, closing, rfl, by simp [closesOperand, closes]⟩

end Settled

theorem isKeyword_kind {token : Token} (opens : token.isKeyword "let" = true) :
    token.kind = .keyword := by
  simp only [Token.isKeyword, Bool.and_eq_true, beq_iff_eq] at opens
  exact opens.1

theorem Phrase.settled {level : Level} (phrase : Phrase level) :
    Settled phrase.tokens := by
  induction phrase with
  | binding keyword name sign opens named assigns value valueSettled =>
      have isKeyword : keyword.kind = .keyword := isKeyword_kind opens
      have signSettled : Settled (sign :: value.tokens) :=
        valueSettled.cons (by simp [assigns]) (by simp [assigns])
          (by simp [Token.isKeyword, assigns])
      have nameSettled : Settled (name :: sign :: value.tokens) :=
        signSettled.cons (by simp [named]) (by simp [named])
          (by simp [Token.isKeyword, named])
      exact nameSettled.cons (by simp [isKeyword]) (by simp [isKeyword]) fun _ => by
        simp
  | plain sum sumSettled => exact sumSettled
  | one operand operandSettled => exact operandSettled
  | @more chain left op joins right leftSettled rightSettled =>
      refine leftSettled.append (rightSettled.cons_operator ?_)
      cases chain <;> simp only [Chain.joins] at joins <;> simp [joins]
  | signed op signs operand operandSettled =>
      exact operandSettled.cons_operator (by simp [signs])
  | bare atom atomSettled => exact atomSettled
  | power base op raises exponent baseSettled exponentSettled =>
      exact baseSettled.append (exponentSettled.cons_operator (by simp [raises]))
  | number literal numeric => exact .singleton (numeric.imp id .inl)
  | access name named => exact .singleton (.inr (.inr named))
  | brackets opening closing opens closes inner innerSettled =>
      exact .brackets opens closes innerSettled

/-- A token that closes an operand opens none and is no keyword. -/
theorem not_opensOperand_of_closes {token : Token}
    (closes : closesOperand token = true) :
    opensOperand token = false ∧ token.isKeyword "let" = false := by
  cases kind : token.kind <;> simp [closesOperand, kind] at closes <;>
    simp [opensOperand, isSign, isScaling, isPower, Token.isKeyword, kind]

/-- The last two tokens of a phrase: one that closes an operand, and one that is
    no keyword of a binding. -/
theorem Settled.reverse_eq {tokens : List Token} (settled : Settled tokens) :
    ∃ last earlier, tokens.reverse = last :: earlier ∧ closesOperand last = true ∧
      ∀ token ∈ earlier.head?, token.isKeyword "let" = false := by
  obtain ⟨before, last, rfl, closes⟩ := settled.ended
  refine ⟨last, before.reverse, by simp, closes,
    fun token member => Bool.eq_false_iff.mpr fun opens => ?_⟩
  rw [List.head?_reverse, Option.mem_def, List.getLast?_eq_some_iff] at member
  obtain ⟨front, rfl⟩ := member
  have enough := settled.bound token [last] (by simp) opens
  simp at enough

/-- What the parser of whole token lists complains of after the tokens. -/
def Tells (fault : SyntaxFault) (tokens : List Token) : Prop :=
  Lacks fault tokens ∨ fault = .trailingTokens ∧ Complete tokens

/-- What an expression tells: tokens that come after it are too many. -/
theorem faultAfter_of_complete {tokens : List Token} (complete : Complete tokens) :
    faultAfter tokens = .trailingTokens := by
  obtain ⟨phrase, rfl⟩ := complete
  obtain ⟨last, earlier, reversed, closes, unbound⟩ := phrase.settled.reverse_eq
  obtain ⟨notOperand, notKeyword⟩ := not_opensOperand_of_closes closes
  have noBinding : earlier.head?.any (·.isKeyword "let") = false := by
    cases head : earlier.head? with
    | none => rfl
    | some token => exact unbound token head
  have noBracket : leavesOpen phrase.tokens = false := by
    rw [leavesOpen, List.any_eq_false]
    intro rest member
    have closed := phrase.settled.closed rest ((List.mem_tails _ _).mp member)
    simpa using closed
  rw [faultAfter, reversed]
  simp [notOperand, notKeyword, noBinding, noBracket]

/-- What an expression behind an open bracket tells: the bracket has to be
    closed. -/
theorem faultAfter_of_insideBracket {tokens : List Token}
    (inside : InsideBracket tokens) : faultAfter tokens = .unclosedBracket := by
  obtain ⟨before, opening, inner, opens, rfl⟩ := inside
  obtain ⟨last, earlier, reversed, closes, unbound⟩ := inner.settled.reverse_eq
  obtain ⟨notOperand, notKeyword⟩ := not_opensOperand_of_closes closes
  have noBinding : (earlier ++ opening :: before.reverse).head?.any
      (·.isKeyword "let") = false := by
    cases earlier with
    | nil => simp [Token.isKeyword, opens]
    | cons token earlier => exact unbound token rfl
  have someBracket : leavesOpen (before ++ opening :: inner.tokens) = true := by
    rw [leavesOpen, List.any_eq_true]
    refine ⟨opening :: inner.tokens,
      (List.mem_tails _ _).mpr (List.suffix_append _ _), ?_⟩
    simp [opens, inner.settled.even]
  have reversed : (before ++ opening :: inner.tokens).reverse =
      last :: (earlier ++ opening :: before.reverse) := by
    simp [reversed]
  rw [faultAfter, reversed]
  simp only [notOperand, notKeyword, noBinding, someBracket, Bool.false_eq_true,
    if_false, if_true]

/-- The fault that is met after tokens is the one that they tell. -/
theorem Tells.eq_faultAfter {fault : SyntaxFault} {tokens : List Token}
    (tells : Tells fault tokens) : fault = faultAfter tokens := by
  rcases tells with lacks | ⟨rfl, complete⟩
  · cases lacks with
    | first => rfl
    | operand opens => simp [faultAfter, opens]
    | closing inside => exact (faultAfter_of_insideBracket inside).symm
    | name after =>
        obtain ⟨before, keyword, opens, rfl⟩ := after
        have notOperand : opensOperand keyword = false := by
          simp [opensOperand, isSign, isScaling, isPower, isKeyword_kind opens]
        simp [faultAfter, notOperand, opens]
    | assignment after =>
        obtain ⟨before, keyword, name, opens, named, rfl⟩ := after
        have notOperand : opensOperand name = false := by
          simp [opensOperand, isSign, isScaling, isPower, named]
        have notKeyword : name.isKeyword "let" = false := by
          simp [Token.isKeyword, named]
        simp [faultAfter, notOperand, notKeyword, opens]
  · exact (faultAfter_of_complete complete).symm

/-- No two faults are met after the same tokens. -/
theorem Tells.unique {fault fault' : SyntaxFault} {tokens : List Token}
    (tells : Tells fault tokens) (tells' : Tells fault' tokens) : fault = fault' :=
  tells.eq_faultAfter.trans tells'.eq_faultAfter.symm

/-!
### Whole token lists

The parser of whole lists stops inside an expression, or behind one where more
tokens come. Its fault stands at a token, or where the input ends if it has read
all of them; and the message, which differs from fault to fault, can be traced
back to what the tokens lack. Completeness then says that no sentence begins
with the tokens and the offending one.
-/

/-- How the parser of whole token lists stops. -/
theorem whole_eq_error {levels height : Nat} {tokens ahead : List Token}
    {fault : SyntaxFault} (failed : whole levels height tokens = .error ⟨fault, ahead⟩)
    (shallow : fault ≠ .tooDeep) :
    ∃ before, tokens = before ++ ahead ∧ Tells fault before ∧
      (∃ phrase : Phrase .expr, before <+: phrase.tokens) ∧
      ∀ ahead' : List Token, ahead'.head? = ahead.head? →
        whole levels height (before ++ ahead') = .error ⟨fault, ahead'⟩ := by
  cases read : Expr.Parser.expr levels height tokens with
  | error failure =>
      rw [whole, read] at failed
      cases failed
      obtain ⟨before, rfl, lacks, viable, again⟩ :=
        diagnoses_expr levels height read shallow
      refine ⟨before, rfl, .inl lacks, viable, fun ahead' same => ?_⟩
      have again : Expr.Parser.expr levels height (before ++ ahead') =
          .error ⟨fault, ahead'⟩ := again ahead' same
      rw [whole, again]
  | ok result =>
      obtain ⟨tree, rest⟩ := result
      rw [whole, read] at failed
      cases rest with
      | nil => cases failed
      | cons token rest =>
          cases failed
          obtain ⟨phrase, rfl, rfl, stops, readAgain⟩ := reads_again .expr read
          refine ⟨phrase.tokens, rfl, .inr ⟨rfl, phrase, rfl⟩,
            ⟨phrase, List.prefix_rfl⟩, fun ahead' same => ?_⟩
          obtain ⟨rest', rfl⟩ := List.head?_eq_some_iff.mp same
          have again :
              Expr.Parser.expr levels height (phrase.tokens ++ token :: rest') =
                .ok (phrase.tree, token :: rest') := readAgain _ (stops.of_head? same)
          rw [whole, again]

section

variable {tokens : List Token} (others : ∀ token ∈ tokens, token.kind ≠ .endOfInput)

include others

/-- What stands before the first end of the input is parsed. -/
theorem beforeEnd_append (rest : List Token) :
    Token.beforeEnd (tokens ++ rest) = tokens ++ Token.beforeEnd rest :=
  List.takeWhile_append_of_pos fun token member => bne_iff_ne.mpr (others token member)

/-- The input ends at the first end of the input. -/
theorem endSpan_append {stop : Token} (ends : stop.kind = .endOfInput)
    (rest : List Token) : Token.endSpan (tokens ++ stop :: rest) = stop.span := by
  have none : tokens.find? (·.kind == .endOfInput) = none := by
    rw [List.find?_eq_none]
    intro token member
    simpa using others token member
  rw [Token.endSpan, List.find?_append, none, List.find?_cons_of_pos (by simp [ends])]
  rfl

end

/-- The parser's fault at the end of the input stands at the end of the input,
    and any other at its token. -/
theorem ofTokens_eq_error {before : List Token} {token : Token}
    {fault : SyntaxFault} (others : ∀ token ∈ before, token.kind ≠ .endOfInput)
    (failed : ∀ ahead : List Token, ahead.head? = (Token.beforeEnd [token]).head? →
      whole greatestNesting greatestHeight (before ++ ahead) = .error ⟨fault, ahead⟩)
    (after : List Token) :
    Expr.ofTokens (before ++ token :: after) =
      .error (.grammatical fault token.span) := by
  rw [Expr.ofTokens, beforeEnd_append others]
  by_cases ends : token.kind = .endOfInput
  case pos =>
    have nothing (rest : List Token) : Token.beforeEnd (token :: rest) = [] :=
      List.takeWhile_cons_of_neg (by simp [ends])
    have failed := failed [] (by rw [nothing])
    rw [nothing, failed, endSpan_append others ends]
    rfl
  case neg =>
    have goesOn (rest : List Token) :
        Token.beforeEnd (token :: rest) = token :: Token.beforeEnd rest :=
      List.takeWhile_cons_of_pos (by simp [ends])
    rw [goesOn, failed _ (by rw [goesOn]; rfl)]
    rfl

/-- No sentence is refused but for the limits. -/
theorem message_of_viable {before : List Token} {diagnostic : Diagnostic}
    (failed : ∀ after, Expr.ofTokens (before ++ after) = .error diagnostic)
    (viable : Viable before) :
    diagnostic.message = "expression nested too deeply" := by
  obtain ⟨phrase, stop, ends, after, sentence⟩ := viable
  have refused := failed after
  have spelled : phrase.tokens = Token.beforeEnd (before ++ after) := by
    rw [sentence, phrase.beforeEnd_append ends]
  by_cases fits : phrase.Fits greatestNesting greatestHeight
  · rw [ofTokens_eq_ok_iff.mpr ⟨phrase, spelled, rfl, fits⟩] at refused
    cases refused
  · obtain ⟨span, tooDeep⟩ := ofTokens_of_not_fits spelled fits
    rw [tooDeep] at refused
    cases refused
    rfl

/-- What each fault says. -/
theorem message_eq_iff {fault fault' : SyntaxFault} :
    fault.message = fault'.message ↔ fault = fault' := by
  constructor
  · intro same
    cases fault <;> cases fault' <;> simp [SyntaxFault.message] at same ⊢
  · rintro rfl
    rfl

/-- The message says which fault the tokens tell. -/
theorem Tells.message_iff {fault : SyntaxFault} {tokens : List Token}
    (tells : Tells fault tokens) (fault' : SyntaxFault) :
    fault.message = fault'.message ↔ Tells fault' tokens := by
  rw [message_eq_iff]
  constructor
  · rintro rfl
    exact tells
  · exact tells.unique

theorem tells_trailingTokens {tokens : List Token} :
    Tells .trailingTokens tokens ↔ Complete tokens := by
  constructor
  · rintro (lacks | ⟨_, complete⟩)
    · cases lacks
    · exact complete
  · exact fun complete => .inr ⟨rfl, complete⟩

/-- Any other fault tells what the tokens lack. -/
theorem tells_iff_lacks {fault : SyntaxFault} {tokens : List Token}
    (within : fault ≠ .trailingTokens) : Tells fault tokens ↔ Lacks fault tokens :=
  or_iff_left fun trailing => within trailing.1

theorem tells_unclosedBracket {tokens : List Token} :
    Tells .unclosedBracket tokens ↔ InsideBracket tokens := by
  rw [tells_iff_lacks (by decide)]
  exact ⟨fun | .closing inside => inside, .closing⟩

theorem tells_expectedName {tokens : List Token} :
    Tells .expectedName tokens ↔ AfterKeyword tokens := by
  rw [tells_iff_lacks (by decide)]
  exact ⟨fun | .name after => after, .name⟩

theorem tells_expectedAssignment {tokens : List Token} :
    Tells .expectedAssignment tokens ↔ AfterName tokens := by
  rw [tells_iff_lacks (by decide)]
  exact ⟨fun | .assignment after => after, .assignment⟩

/-- An operand is what is lacking exactly where nothing else is told. -/
theorem Tells.expectedOperand_iff {fault : SyntaxFault} {tokens : List Token}
    (tells : Tells fault tokens) :
    Tells .expectedOperand tokens ↔
      ¬ InsideBracket tokens ∧ ¬ Complete tokens ∧ ¬ AfterKeyword tokens ∧
        ¬ AfterName tokens := by
  rw [← tells_unclosedBracket, ← tells_trailingTokens, ← tells_expectedName,
    ← tells_expectedAssignment]
  constructor
  · intro operand
    refine ⟨?_, ?_, ?_, ?_⟩ <;> exact fun other => nomatch operand.unique other
  · rintro ⟨noBracket, noExpression, noKeyword, noName⟩
    rcases tells with lacks | ⟨rfl, complete⟩
    · cases lacks with
      | first => exact .inl .first
      | operand opens => exact .inl (.operand opens)
      | closing inside => exact absurd (.inl (.closing inside)) noBracket
      | name after => exact absurd (.inl (.name after)) noKeyword
      | assignment after => exact absurd (.inl (.assignment after)) noName
    · exact absurd (.inr ⟨rfl, complete⟩) noExpression

/-- A list of tokens that is refused is refused at one of them, for what the
    tokens before it tell and whatever comes after it. -/
theorem exists_offending_token {body : List Token} {stop : Token}
    {fault : SyntaxFault} {span : Span} (ends : stop.kind = .endOfInput)
    (others : ∀ token ∈ body, token.kind ≠ .endOfInput)
    (failed : Expr.ofTokens (body ++ [stop]) = .error (.grammatical fault span))
    (shallow : fault ≠ .tooDeep) :
    ∃ before token after, body ++ [stop] = before ++ token :: after ∧
      Tells fault before ∧
      (∃ phrase : Phrase .expr, before <+: phrase.tokens) ∧
      ∀ after', Expr.ofTokens (before ++ token :: after') =
        .error (.grammatical fault token.span) := by
  have parsed : Token.beforeEnd (body ++ [stop]) = body := by
    rw [beforeEnd_append others, Token.beforeEnd,
      List.takeWhile_cons_of_neg (by simp [ends]), List.append_nil]
  obtain ⟨ahead, refused⟩ : ∃ ahead,
      whole greatestNesting greatestHeight body = .error ⟨fault, ahead⟩ := by
    rw [Expr.ofTokens, parsed] at failed
    cases outcome : whole greatestNesting greatestHeight body with
    | ok tree =>
        rw [outcome] at failed
        cases failed
    | error failure =>
        rw [outcome] at failed
        cases failed
        exact ⟨failure.ahead, rfl⟩
  obtain ⟨before, rfl, tells, viable, again⟩ := whole_eq_error refused shallow
  have othersBefore : ∀ token ∈ before, token.kind ≠ .endOfInput :=
    fun token member => others token (List.mem_append_left ahead member)
  cases ahead with
  | nil =>
      have nothing : Token.beforeEnd [stop] = [] :=
        List.takeWhile_cons_of_neg (by simp [ends])
      exact ⟨before, stop, [], by simp, tells, viable,
        ofTokens_eq_error othersBefore fun ahead same =>
        again ahead (by rw [same, nothing])⟩
  | cons token rest =>
      have other : token.kind ≠ .endOfInput := others token (by simp)
      have itself : Token.beforeEnd [token] = [token] :=
        List.takeWhile_cons_of_pos (by simp [other])
      refine ⟨before, token, rest ++ [stop], by simp, tells, viable, ?_⟩
      exact ofTokens_eq_error othersBefore fun ahead same =>
        again ahead (by rw [same, itself]; rfl)

/-- Where a list of tokens is refused and why, the limits on nesting and height
    apart. The tokens before the offending one begin a sentence, and no sentence
    begins with them and it. Nothing after it plays any part. And the message
    tells what the tokens before it are: an expression behind an open bracket,
    an expression, something that ends with the keyword of a binding or with its
    name, or something that an operand has to follow. -/
theorem first_hopeless_token {body : List Token} {stop : Token}
    {diagnostic : Diagnostic} (ends : stop.kind = .endOfInput)
    (others : ∀ token ∈ body, token.kind ≠ .endOfInput)
    (failed : Expr.ofTokens (body ++ [stop]) = .error diagnostic)
    (shallow : diagnostic.message ≠ "expression nested too deeply") :
    ∃ before token after, body ++ [stop] = before ++ token :: after ∧
      diagnostic.kindName = "Syntax Error" ∧ diagnostic.span = token.span ∧
      Viable before ∧ ¬ Viable (before ++ [token]) ∧
      (∀ after', Expr.ofTokens (before ++ token :: after') = .error diagnostic) ∧
      (diagnostic.message = "missing ')'" ↔ InsideBracket before) ∧
      (diagnostic.message = "expecting at least one operator" ↔ Complete before) ∧
      (diagnostic.message = "identifier expected after let keyword" ↔
        AfterKeyword before) ∧
      (diagnostic.message = "assignment operator expected after identifier" ↔
        AfterName before) ∧
      (diagnostic.message = "expecting a number, sign, or bracket" ↔
        ¬ InsideBracket before ∧ ¬ Complete before ∧ ¬ AfterKeyword before ∧
          ¬ AfterName before) := by
  obtain ⟨tree, done⟩ | ⟨fault, span, grammatical⟩ :=
    ofTokens_eq_ok_or_grammatical (body ++ [stop])
  · rw [done] at failed
    cases failed
  · rw [grammatical] at failed
    cases failed
    have notTooDeep : fault ≠ .tooDeep := by
      rintro rfl
      exact shallow rfl
    obtain ⟨before, token, after, whole_eq, tells, ⟨phrase, begun⟩, refused⟩ :=
      exists_offending_token ends others grammatical notTooDeep
    obtain rfl : span = token.span := by
      have here := refused after
      rw [← whole_eq, grammatical] at here
      cases here
      rfl
    have viable : Viable before :=
      ⟨phrase, stop, ends, begun.trans (List.prefix_append _ _)⟩
    have hopeless : ¬ Viable (before ++ [token]) := by
      intro viable
      refine shallow (message_of_viable (fun after' => ?_) viable)
      rw [List.append_assoc, List.singleton_append]
      exact refused after'
    refine ⟨before, token, after, whole_eq, rfl, rfl, viable, hopeless, refused,
      ?_, ?_, ?_, ?_, ?_⟩
    · exact (tells.message_iff .unclosedBracket).trans tells_unclosedBracket
    · exact (tells.message_iff .trailingTokens).trans tells_trailingTokens
    · exact (tells.message_iff .expectedName).trans tells_expectedName
    · exact (tells.message_iff .expectedAssignment).trans tells_expectedAssignment
    · exact (tells.message_iff .expectedOperand).trans tells.expectedOperand_iff

/-- The tokens of a source in which a bracket stays open behind a whole binding. -/
def openBracketSource : Source :=
  { label := "<test>", content := "(let x = 2 5)" }

/-- The tokens of `openBracketSource` but for the end of the input. -/
def openBracketTokens : List Token :=
  [⟨.leftParen, none, ⟨⟨0, 0, 0⟩, ⟨1, 0, 1⟩, openBracketSource⟩⟩,
    ⟨.keyword, some (.text "let"), ⟨⟨1, 0, 1⟩, ⟨4, 0, 4⟩, openBracketSource⟩⟩,
    ⟨.identifier, some (.text "x"), ⟨⟨5, 0, 5⟩, ⟨6, 0, 6⟩, openBracketSource⟩⟩,
    ⟨.assignment, some (.text "="), ⟨⟨7, 0, 7⟩, ⟨8, 0, 8⟩, openBracketSource⟩⟩,
    ⟨.integer, some (.int 2), ⟨⟨9, 0, 9⟩, ⟨10, 0, 10⟩, openBracketSource⟩⟩,
    ⟨.integer, some (.int 5), ⟨⟨11, 0, 11⟩, ⟨12, 0, 12⟩, openBracketSource⟩⟩,
    ⟨.rightParen, none, ⟨⟨12, 0, 12⟩, ⟨13, 0, 13⟩, openBracketSource⟩⟩]

/-- The end of `openBracketSource`. -/
def openBracketStop : Token :=
  { kind := .endOfInput, span := .point ⟨13, 0, 13⟩ openBracketSource }

/-- The second literal cannot go on the binding before it, and the bracket
    before that is still open. -/
theorem first_hopeless_token_behind_binding :
    let diagnostic :=
      .grammatical .unclosedBracket ⟨⟨11, 0, 11⟩, ⟨12, 0, 12⟩, openBracketSource⟩
    openBracketSource.tokens = .ok (openBracketTokens ++ [openBracketStop]) ∧
      openBracketStop.kind = .endOfInput ∧
      (∀ token ∈ openBracketTokens, token.kind ≠ .endOfInput) ∧
      Expr.ofTokens (openBracketTokens ++ [openBracketStop]) = .error diagnostic ∧
      diagnostic.message ≠ "expression nested too deeply" ∧
      ∃ before token after,
        openBracketTokens ++ [openBracketStop] = before ++ token :: after ∧
        diagnostic.span = token.span ∧ Viable before ∧ ¬ Viable (before ++ [token]) ∧
        (∀ after', Expr.ofTokens (before ++ token :: after') = .error diagnostic) ∧
        InsideBracket before := by
  intro diagnostic
  have tokenized : openBracketSource.tokens =
      .ok (openBracketTokens ++ [openBracketStop]) := by decide +kernel
  have others : ∀ token ∈ openBracketTokens, token.kind ≠ .endOfInput := by decide
  have failed : Expr.ofTokens (openBracketTokens ++ [openBracketStop]) =
      .error diagnostic := by decide +kernel
  have shallow : diagnostic.message ≠ "expression nested too deeply" := by decide
  obtain ⟨before, token, after, whole_eq, _, place, viable, hopeless, again,
      bracket, _⟩ :=
    first_hopeless_token rfl others failed shallow
  exact ⟨tokenized, rfl, others, failed, shallow, before, token, after,
    whole_eq, place, viable, hopeless, again,
    bracket.mp rfl⟩

end Abacus.Grammar
