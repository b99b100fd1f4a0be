/-
Module: Abacus.Proofs.ParserFaults
Purpose: Where the parser of each level stops, the limits on nesting and height
  apart, and what its fault says. The tokens before the offending one begin a
  phrase of the level, they lack what the fault says, and nothing after the
  offending token plays any part. That is shown level by level, since a level is
  read by the parsers of the levels inside of it (`Diagnoses`).
Main exports: Grammar.Viable, Grammar.Complete, Grammar.InsideBracket,
  Grammar.AfterKeyword, Grammar.AfterName, Grammar.Lacks, Grammar.StopsAt,
  Grammar.Diagnoses, Grammar.reads_again, Grammar.diagnoses_expr
-/
import Abacus.Proofs.ParserAgreement
import Mathlib.Data.List.Infix

namespace Abacus.Grammar

open Expr.Parser

/-!
### Beginnings of sentences

What tokens that begin a sentence can end with: a whole expression, one behind
an open bracket, the keyword of a binding, or its name. Each of these says what
has to follow, and so names a fault; an operand is lacking where none of them is
met. What tokens lack does not change if more tokens are put before them.
-/

/-- The tokens begin a sentence: an expression and the end of the input, however
    deep. -/
def Viable (tokens : List Token) : Prop :=
  ∃ (phrase : Phrase .expr) (stop : Token), stop.kind = .endOfInput ∧
    tokens <+: phrase.tokens ++ [stop]

/-- The tokens are an expression. -/
def Complete (tokens : List Token) : Prop :=
  ∃ phrase : Phrase .expr, phrase.tokens = tokens

/-- The tokens end with an expression right behind a bracket that is still open.
    Every bracket of the expression is closed in it, so this is the innermost
    open one. -/
def InsideBracket (tokens : List Token) : Prop :=
  ∃ (before : List Token) (opening : Token) (inner : Phrase .expr),
    opening.kind = .leftParen ∧ tokens = before ++ opening :: inner.tokens

/-- The tokens end with the keyword of a binding. In what begins a sentence the
    keyword stands nowhere else. -/
def AfterKeyword (tokens : List Token) : Prop :=
  ∃ before keyword, keyword.isKeyword "let" = true ∧ tokens = before ++ [keyword]

/-- The tokens end with the name of a binding, behind its keyword. -/
def AfterName (tokens : List Token) : Prop :=
  ∃ before keyword name, keyword.isKeyword "let" = true ∧ name.kind = .identifier ∧
    tokens = before ++ [keyword, name]

/-- Whether an operand has to follow the token: an operator, an opening bracket
    or an assignment sign. -/
def opensOperand (token : Token) : Bool :=
  isSign token || isScaling token || isPower token ||
    token.kind == .leftParen || token.kind == .assignment

/-- Whether an operand may end with the token: a literal, a name or a closing
    bracket. -/
def closesOperand (token : Token) : Bool :=
  token.kind == .integer || token.kind == .float || token.kind == .identifier ||
    token.kind == .rightParen

/-- What tokens that go wrong inside of an expression lack. -/
inductive Lacks : SyntaxFault → List Token → Prop where
  | first : Lacks .expectedOperand []
  | operand {before : List Token} {last : Token} (opens : opensOperand last = true) :
      Lacks .expectedOperand (before ++ [last])
  | closing {tokens : List Token} (inside : InsideBracket tokens) :
      Lacks .unclosedBracket tokens
  | name {tokens : List Token} (after : AfterKeyword tokens) :
      Lacks .expectedName tokens
  | assignment {tokens : List Token} (after : AfterName tokens) :
      Lacks .expectedAssignment tokens

/-- What tokens lack does not depend on what stands before them. -/
theorem Lacks.prepend {fault : SyntaxFault} {tokens : List Token}
    (lacks : Lacks fault tokens) (nonempty : tokens ≠ []) (more : List Token) :
    Lacks fault (more ++ tokens) := by
  cases lacks with
  | first => exact absurd rfl nonempty
  | operand opens =>
      rw [← List.append_assoc]
      exact .operand opens
  | closing inside =>
      obtain ⟨before, opening, inner, opens, rfl⟩ := inside
      exact .closing ⟨more ++ before, opening, inner, opens, by simp⟩
  | name after =>
      obtain ⟨before, keyword, isLet, rfl⟩ := after
      exact .name ⟨more ++ before, keyword, isLet, by simp⟩
  | assignment after =>
      obtain ⟨before, keyword, name, isLet, named, rfl⟩ := after
      exact .assignment ⟨more ++ before, keyword, name, isLet, named, by simp⟩

/-- Behind a token that an operand has to follow, an operand lacks what it lacks
    by itself. -/
theorem Lacks.cons {fault : SyntaxFault} {tokens : List Token}
    (lacks : Lacks fault tokens) {token : Token}
    (opens : opensOperand token = true) : Lacks fault (token :: tokens) := by
  cases tokens with
  | nil =>
      generalize nothing : ([] : List Token) = tokens at lacks
      cases lacks with
      | first =>
          rw [← List.nil_append [token]]
          exact .operand opens
      | operand => simp at nothing
      | closing inside =>
          obtain ⟨before, opening, inner, _, rfl⟩ := inside
          simp at nothing
      | name after =>
          obtain ⟨before, keyword, _, rfl⟩ := after
          simp at nothing
      | assignment after =>
          obtain ⟨before, keyword, name, _, _, rfl⟩ := after
          simp at nothing
  | cons head tail => exact lacks.prepend (by simp) [token]

theorem Chain.opensOperand_of_joins {chain : Chain} {op : Token}
    (joins : chain.joins op = true) : opensOperand op = true := by
  cases chain <;> simp only [Chain.joins] at joins <;> simp [opensOperand, joins]

/-- A literal as an atom. -/
def Phrase.literalAtom : Phrase .atom :=
  .number ⟨.integer, none, default⟩ (.inl rfl)

/-- A literal as an expression. -/
def Phrase.literalExpr : Phrase .expr :=
  let term : Phrase (.chain .term) := .one (.bare .literalAtom)
  let sum : Phrase (.chain .sum) := .one term
  .plain sum

/-- Whether an atom begins with the token: a literal, a name or an opening
    bracket. -/
def beginsAtom (token : Token) : Bool :=
  token.kind == .integer || token.kind == .float || token.kind == .identifier ||
    token.kind == .leftParen

/-!
### How the parser of a level stops

One lemma for each routine of the parser: where it stops, the tokens before the
place begin a phrase of its level. So a routine that stops inside another one
completes what that one has begun with parts that can always be written, such as
a literal for a missing operand. That nothing after the offending token matters
goes through in the same induction.
-/

/-- A parser of the level stops at the first of the tokens `ahead`: those before
    it begin a phrase of the level and lack what the fault says, and the parser
    fails there whatever comes after the offending token. -/
def StopsAt (level : Level) (parse : Parse) (tokens : List Token)
    (fault : SyntaxFault) (ahead : List Token) : Prop :=
  ∃ before, tokens = before ++ ahead ∧ Lacks fault before ∧
    (∃ phrase : Phrase level, before <+: phrase.tokens) ∧
    ∀ ahead' : List Token, ahead'.head? = ahead.head? →
    parse (before ++ ahead') = .error ⟨fault, ahead'⟩

/-- How a parser fails, nesting and height apart. -/
def Diagnoses (level : Level) (parse : Parse) : Prop :=
  ∀ ⦃tokens : List Token⦄ ⦃fault : SyntaxFault⦄ ⦃ahead : List Token⦄,
    parse tokens = .error ⟨fault, ahead⟩ →
    fault ≠ .tooDeep → StopsAt level parse tokens fault ahead

/-- Whether a level stops depends on the next token only. -/
theorem Level.Stops.of_head? {level : Level} {rest rest' : List Token}
    (stops : level.Stops rest) (same : rest'.head? = rest.head?) :
    level.Stops rest' := by
  unfold Level.Stops
  rw [same]
  exact stops

theorem head?_append_congr {ahead ahead' : List Token}
    (same : ahead'.head? = ahead.head?) (before : List Token) :
    (before ++ ahead').head? = (before ++ ahead).head? := by
  rw [List.head?_append, List.head?_append, same]

/-- A sequence of two steps fails if the first one does, or the second one after
    it. -/
theorem bind_eq_error {α β : Type} {first : Except Failure α}
    {next : α → Except Failure β} {failure : Failure}
    (failed : first.bind next = .error failure) :
    first = .error failure ∨ ∃ a, first = .ok a ∧ next a = .error failure := by
  cases first with
  | error _ =>
      cases failed
      exact .inl rfl
  | ok a => exact .inr ⟨a, rfl, failed⟩

theorem expect_eq_error {test : Token → Bool} {fault fault' : SyntaxFault}
    {tokens ahead : List Token}
    (failed : expect test fault tokens = .error ⟨fault', ahead⟩) :
    fault' = fault ∧ ahead = tokens ∧ ∀ token ∈ tokens.head?, test token = false := by
  cases tokens with
  | nil =>
      cases failed
      exact ⟨rfl, rfl, by simp⟩
  | cons token rest =>
      cases passes : test token with
      | true => simp [expect, passes] at failed
      | false =>
          simp only [expect, passes] at failed
          cases failed
          exact ⟨rfl, rfl, by simp [passes]⟩

/-- What is not the expected token is refused, whatever comes after it. -/
theorem expect_bind_of_head? {α : Type} {test : Token → Bool} {fault : SyntaxFault}
    {tokens : List Token} (refused : ∀ token ∈ tokens.head?, test token = false)
    (next : Token × List Token → Except Failure α) :
    (expect test fault tokens).bind next = .error ⟨fault, tokens⟩ := by
  cases tokens with
  | nil => rfl
  | cons token rest =>
      simp only [expect, refused token rfl]
      rfl

theorem reads_parserOf (levels height : Nat) (level : Level) :
    Reads level (parserOf levels height level) := by
  cases level with
  | expr => exact reads_expr levels height
  | chain c =>
      cases c with
      | sum => exact reads_sumWith (reads_nested levels).1 height
      | term => exact reads_chain (c := .term) (reads_nested levels).1 height
  | factor => exact (reads_nested levels).1 height
  | atom => exact reads_atomWith (reads_expr levels) height

/-- What the parser of a level has read it reads again wherever the level stops. -/
theorem reads_again {levels height : Nat} (level : Level) {tokens rest : List Token}
    {tree : Expr} (done : parserOf levels height level tokens = .ok (tree, rest)) :
    ∃ phrase : Phrase level, phrase.tree = tree ∧
      phrase.tokens ++ rest = tokens ∧ level.Stops rest ∧
      ∀ rest', level.Stops rest' →
        parserOf levels height level (phrase.tokens ++ rest') =
          .ok (phrase.tree, rest') := by
  obtain ⟨phrase, written, spelled, stops⟩ := reads_parserOf levels height level done
  refine ⟨phrase, written, spelled, stops,
    fun rest' stops' => phrase.parsed.eq_ok stops' ?_⟩
  refine Classical.byContradiction fun unfit => ?_
  obtain ⟨ahead, failed⟩ := phrase.parsed.tooDeep stops unfit
  rw [spelled, done] at failed
  cases failed

section

variable {levels : Nat}

/-- The rest of a chain stops inside an operand after an operator, so at least
    the operator has been read. -/
theorem diagnoses_chainRest {c : Chain}
    (operandStops : ∀ height, Diagnoses c.operand (parserOf levels height c.operand))
    {fault : SyntaxFault} {ahead : List Token} (shallow : fault ≠ .tooDeep) :
    ∀ (height : Nat) (left : Phrase (.chain c)) (tokens : List Token),
      chainRest c.joins
          (fun height => parserOf levels height c.operand) height left.tree tokens =
        .error ⟨fault, ahead⟩ →
      ∃ before, before ≠ [] ∧ tokens = before ++ ahead ∧ Lacks fault before ∧
        (∃ phrase : Phrase (.chain c), left.tokens ++ before <+: phrase.tokens) ∧
        ∀ ahead' : List Token, ahead'.head? = ahead.head? →
          chainRest c.joins
              (fun height => parserOf levels height c.operand) height left.tree
              (before ++ ahead') =
            .error ⟨fault, ahead'⟩
  | height, left, [], failed => by cases height <;> cases failed
  | height, left, op :: tokens, failed => by
      cases joins : c.joins op with
      | false =>
          rw [chainRest_of_not_operator height left.tree (by simpa using joins)]
            at failed
          cases failed
      | true =>
          cases height with
          | zero =>
              rw [chainRest_zero _ left.tree joins] at failed
              cases failed
              exact absurd rfl shallow
          | succ height =>
              rw [chainRest_succ _ height left.tree joins] at failed
              rcases bind_eq_error failed
                with operandFailed | ⟨⟨tree, rest⟩, operandRead, onward⟩
              · obtain ⟨before, rfl, lacks, ⟨right, begun⟩, again⟩ :=
                  operandStops height operandFailed shallow
                refine ⟨op :: before, by simp, rfl,
                  lacks.cons (Chain.opensOperand_of_joins joins),
                  ⟨left.more op joins right, ?_⟩, fun ahead' same => ?_⟩
                · simpa [Phrase.tokens] using begun
                · rw [List.cons_append, chainRest_succ _ height left.tree joins,
                    again ahead' same]
                  rfl
              · obtain ⟨right, rfl, rfl, stops, readAgain⟩ := reads_again _ operandRead
                obtain ⟨before, nonempty, rfl, lacks, ⟨phrase, begun⟩, again⟩ :=
                  diagnoses_chainRest operandStops shallow height
                    (left.more op joins right) rest onward
                refine ⟨op :: (right.tokens ++ before), by simp, by simp, ?_,
                  ⟨phrase, ?_⟩, fun ahead' same => ?_⟩
                · exact lacks.prepend nonempty (op :: right.tokens)
                · simpa [Phrase.tokens] using begun
                · have stops' := stops.of_head? (head?_append_congr same before)
                  rw [List.cons_append, List.append_assoc,
                    chainRest_succ _ height left.tree joins, readAgain _ stops']
                  exact again ahead' same

/-- A chain stops inside its first operand or in its rest. -/
theorem diagnoses_chain {c : Chain}
    (operandStops : ∀ height, Diagnoses c.operand (parserOf levels height c.operand))
    (height : Nat) : Diagnoses (.chain c) (parserOf levels height (.chain c)) := by
  intro tokens fault ahead failed shallow
  rw [parserOf_chain] at failed ⊢
  rcases bind_eq_error failed with operandFailed | ⟨⟨tree, rest⟩, operandRead, onward⟩
  · obtain ⟨before, rfl, lacks, ⟨operand, begun⟩, again⟩ :=
      operandStops height operandFailed shallow
    refine ⟨before, rfl, lacks, ⟨.one operand, begun⟩, fun ahead' same => ?_⟩
    rw [Expr.Parser.chain, again ahead' same]
    rfl
  · obtain ⟨first, rfl, rfl, stops, readAgain⟩ := reads_again _ operandRead
    obtain ⟨before, nonempty, rfl, lacks, ⟨phrase, begun⟩, again⟩ :=
      diagnoses_chainRest operandStops shallow height (.one first) rest onward
    refine ⟨first.tokens ++ before, by simp, lacks.prepend nonempty first.tokens,
      ⟨phrase, begun⟩, fun ahead' same => ?_⟩
    have stops' := stops.of_head? (head?_append_congr same before)
    rw [List.append_assoc, Expr.Parser.chain, readAgain _ stops']
    exact again ahead' same

/-- Where no atom begins an operand is expected. -/
theorem atomWith_of_head? {expr : Nat → Parse} (height : Nat) {tokens : List Token}
    (refused : ∀ token ∈ tokens.head?, beginsAtom token = false) :
    atomWith expr height tokens = .error ⟨.expectedOperand, tokens⟩ := by
  cases tokens with
  | nil => rfl
  | cons token rest =>
      have other := refused token rfl
      cases kind : token.kind <;> simp [beginsAtom, kind] at other
        <;> simp [atomWith, kind]

/-- Behind an opening bracket the parser stops inside the expression, or where
    the bracket is not closed. -/
theorem diagnoses_brackets
    (exprStops : ∀ height, Diagnoses .expr (parserOf levels height .expr))
    {height : Nat} {opening : Token} (opens : opening.kind = .leftParen)
    {tokens ahead : List Token} {fault : SyntaxFault}
    (failed : parserOf levels height .atom (opening :: tokens) = .error ⟨fault, ahead⟩)
    (shallow : fault ≠ .tooDeep) :
    StopsAt .atom (parserOf levels height .atom) (opening :: tokens) fault ahead := by
  let closing : Token := ⟨.rightParen, none, default⟩
  have inside (tokens : List Token) :
      parserOf levels height .atom (opening :: tokens) =
        (parserOf levels height .expr tokens).bind fun read =>
          (expect (·.kind == .rightParen) .unclosedBracket read.2).bind fun closed =>
            .ok (read.1, closed.2) := by
    simp [parserOf, atomWith, opens]
    rfl
  rw [inside] at failed
  rcases bind_eq_error failed with innerFailed | ⟨⟨tree, rest⟩, innerRead, onward⟩
  · obtain ⟨before, rfl, lacks, ⟨inner, begun⟩, again⟩ :=
      exprStops height innerFailed shallow
    have opensBracket : opensOperand opening = true := by simp [opensOperand, opens]
    refine ⟨opening :: before, rfl, lacks.cons opensBracket,
      ⟨.brackets opening closing opens rfl inner, ?_⟩, fun ahead' same => ?_⟩
    · simp only [Phrase.tokens, List.cons_prefix_cons, true_and]
      exact begun.trans (List.prefix_append _ _)
    · rw [List.cons_append, inside, again ahead' same]
      rfl
  · obtain ⟨inner, rfl, rfl, stops, readAgain⟩ := reads_again _ innerRead
    rcases bind_eq_error onward with closingFailed | ⟨_, _, finish⟩
    · obtain ⟨rfl, rfl, notClosing⟩ := expect_eq_error closingFailed
      refine ⟨opening :: inner.tokens, rfl, .closing ⟨[], opening, inner, opens, rfl⟩,
        ⟨.brackets opening closing opens rfl inner, ?_⟩, fun ahead' same => ?_⟩
      · simp [Phrase.tokens]
      · rw [List.cons_append, inside, readAgain ahead' (stops.of_head? same)]
        exact expect_bind_of_head? (same ▸ notClosing) _
    · cases finish

/-- An atom is missing, or it is an expression in brackets. -/
theorem diagnoses_atom
    (exprStops : ∀ height, Diagnoses .expr (parserOf levels height .expr))
    (height : Nat) : Diagnoses .atom (parserOf levels height .atom) := by
  intro tokens fault ahead failed shallow
  by_cases refused : ∀ token ∈ tokens.head?, beginsAtom token = false
  case pos =>
    have missing (tokens : List Token)
        (refused : ∀ token ∈ tokens.head?, beginsAtom token = false) :
        parserOf levels height .atom tokens = .error ⟨.expectedOperand, tokens⟩ :=
      atomWith_of_head? height refused
    rw [missing tokens refused] at failed
    cases failed
    refine ⟨[], rfl, .first, ⟨.literalAtom, List.nil_prefix⟩, fun ahead' same => ?_⟩
    exact missing ahead' (same ▸ refused)
  case neg =>
    obtain ⟨token, rest, rfl, begins⟩ :
        ∃ token rest, tokens = token :: rest ∧ beginsAtom token = true := by
      cases tokens with
      | nil => simp at refused
      | cons token rest => exact ⟨token, rest, rfl, by simpa using refused⟩
    simp only [beginsAtom, Bool.or_eq_true, beq_iff_eq] at begins
    rcases begins with ((kind | kind) | kind) | kind
    · simp [parserOf, atomWith, kind] at failed
    · simp [parserOf, atomWith, kind] at failed
    · simp [parserOf, atomWith, kind] at failed
    · exact diagnoses_brackets exprStops kind failed shallow

/-- A factor without a sign stops inside its atom or inside its exponent. -/
theorem diagnoses_power
    (factorStops : ∀ height, Diagnoses .factor (factor levels height))
    (atomStops : ∀ height, Diagnoses .atom (parserOf levels height .atom))
    (height : Nat) :
    Diagnoses .factor (powerWith (factor levels) (Expr.Parser.expr levels) height) := by
  intro tokens fault ahead failed shallow
  rcases bind_eq_error failed with atomFailed | ⟨⟨tree, rest⟩, atomRead, onward⟩
  · obtain ⟨before, rfl, lacks, ⟨atom, begun⟩, again⟩ :=
      atomStops height atomFailed shallow
    refine ⟨before, rfl, lacks, ⟨.bare atom, begun⟩, fun ahead' same => ?_⟩
    have again := again ahead' same
    change atomWith (Expr.Parser.expr levels) height _ = _ at again
    rw [powerWith, again]
    rfl
  · obtain ⟨base, rfl, rfl, _, readAgain⟩ := reads_again .atom atomRead
    have onwards (rest' : List Token) :
        powerWith (factor levels) (Expr.Parser.expr levels) height
          (base.tokens ++ rest') =
          chainRest isPower (factor levels) height base.tree rest' := by
      have read := readAgain rest' (Level.stops_atom rest')
      change atomWith (Expr.Parser.expr levels) height _ = _ at read
      rw [powerWith, read]
      rfl
    change chainRest isPower (factor levels) height base.tree rest = _ at onward
    by_cases stops : Level.factor.Stops rest
    case pos =>
      rw [chainRest_of_stops height base.tree stops] at onward
      cases onward
    case neg =>
      obtain ⟨op, rest, rfl, raises⟩ :
          ∃ op tail, rest = op :: tail ∧ isPower op = true := by
        cases rest with
        | nil => exact absurd (Level.stops_nil _) stops
        | cons op tail => exact ⟨op, tail, rfl, by simpa [Level.goesOn] using stops⟩
      cases height with
      | zero =>
          rw [chainRest_zero _ base.tree raises] at onward
          cases onward
          exact absurd rfl shallow
      | succ height =>
          rw [chainRest_succ _ height base.tree raises] at onward
          rcases bind_eq_error onward
            with exponentFailed | ⟨⟨_, rest'⟩, exponentRead, finish⟩
          · obtain ⟨before, rfl, lacks, ⟨exponent, begun⟩, again⟩ :=
              factorStops height exponentFailed shallow
            have opens : opensOperand op = true := by simp [opensOperand, raises]
            refine ⟨base.tokens ++ op :: before, by simp,
              (lacks.cons opens).prepend (by simp) base.tokens,
              ⟨.power base op raises exponent, ?_⟩, fun ahead' same => ?_⟩
            · simpa [Phrase.tokens] using begun
            · rw [List.append_assoc, onwards, List.cons_append,
                chainRest_succ _ height base.tree raises, again ahead' same]
              rfl
          · obtain ⟨_, rfl, rfl, closed, _⟩ := reads_again .factor exponentRead
            change chainRest isPower (factor levels) height _ rest' = _ at finish
            rw [chainRest_of_stops height _ closed] at finish
            cases finish

/-- A factor stops behind its sign, or as one without a sign. -/
theorem diagnoses_factorWith
    (factorStops : ∀ height, Diagnoses .factor (factor levels height))
    (atomStops : ∀ height, Diagnoses .atom (parserOf levels height .atom))
    (height : Nat) :
    Diagnoses .factor (factorWith (factor levels) (Expr.Parser.expr levels) height) := by
  intro tokens fault ahead failed shallow
  by_cases signed : ∃ op rest, tokens = op :: rest ∧ isSign op = true
  case pos =>
    obtain ⟨op, rest, rfl, signs⟩ := signed
    have behind (tokens : List Token) :
        factorWith (factor levels) (Expr.Parser.expr levels) height (op :: tokens) =
          (factor levels height tokens).bind fun read =>
          .ok (.joinUnary op read.1, read.2) := by
      simp [factorWith, signs]
      rfl
    rw [behind] at failed
    rcases bind_eq_error failed with operandFailed | ⟨_, _, finish⟩
    · obtain ⟨before, rfl, lacks, ⟨operand, begun⟩, again⟩ :=
        factorStops height operandFailed shallow
      have opens : opensOperand op = true := by simp [opensOperand, signs]
      refine ⟨op :: before, rfl, lacks.cons opens,
        ⟨.signed op signs operand, ?_⟩, fun ahead' same => ?_⟩
      · simpa [Phrase.tokens] using begun
      · rw [List.cons_append, behind, again ahead' same]
        rfl
    · cases finish
  case neg =>
    have unsigned (tokens : List Token)
        (other : ∀ token ∈ tokens.head?, isSign token = false) :
        factorWith (factor levels) (Expr.Parser.expr levels) height tokens =
          powerWith (factor levels) (Expr.Parser.expr levels) height tokens := by
      cases tokens with
      | nil => rfl
      | cons token rest => simp [factorWith, other token rfl]
    have other : ∀ token ∈ tokens.head?, isSign token = false := by
      intro token member
      refine Bool.eq_false_iff.mpr fun signs => signed ?_
      obtain ⟨rest, rfl⟩ := List.head?_eq_some_iff.mp member
      exact ⟨token, rest, rfl, signs⟩
    rw [unsigned tokens other] at failed
    obtain ⟨before, rfl, lacks, viable, again⟩ :=
      diagnoses_power factorStops atomStops height failed shallow
    refine ⟨before, rfl, lacks, viable, fun ahead' same => ?_⟩
    rw [unsigned (before ++ ahead') (head?_append_congr same before ▸ other)]
    exact again ahead' same

/-- A binding stops at its name, at its assignment sign or inside its value. -/
theorem diagnoses_binding
    (valueStops : ∀ height, Diagnoses .expr (value levels height))
    {height : Nat} {keyword : Token} (opens : keyword.isKeyword "let" = true)
    {tokens ahead : List Token} {fault : SyntaxFault}
    (failed : parserOf levels height .expr (keyword :: tokens) = .error ⟨fault, ahead⟩)
    (shallow : fault ≠ .tooDeep) :
    StopsAt .expr (parserOf levels height .expr) (keyword :: tokens) fault ahead := by
  have behind (tokens : List Token) :
      parserOf levels height .expr (keyword :: tokens) =
        (expect (·.kind == .identifier) .expectedName tokens).bind fun named =>
          (expect (·.kind == .assignment) .expectedAssignment named.2).bind
            fun assigned =>
              (value levels height assigned.2).bind fun read =>
                .ok (.joinAssign keyword named.1 read.1, read.2) := by
    simp [parserOf, Expr.Parser.expr, exprWith, opens]
    rfl
  let someName : Token := ⟨.identifier, none, default⟩
  let someSign : Token := ⟨.assignment, none, default⟩
  rw [behind] at failed
  rcases bind_eq_error failed with nameFailed | ⟨⟨name, rest⟩, nameRead, afterName⟩
  · obtain ⟨rfl, rfl, notName⟩ := expect_eq_error nameFailed
    refine ⟨[keyword], rfl, .name ⟨[], keyword, opens, rfl⟩,
      ⟨.binding keyword someName someSign opens rfl rfl .literalExpr, ?_⟩,
      fun ahead' same => ?_⟩
    · simp [Phrase.tokens]
    · rw [List.singleton_append, behind]
      exact expect_bind_of_head? (same ▸ notName) _
  · obtain ⟨rfl, named⟩ := expect_eq_ok nameRead
    have isName : name.kind = .identifier := beq_iff_eq.mp named
    rcases bind_eq_error afterName with signFailed | ⟨⟨sign, rest⟩, signRead, afterSign⟩
    · obtain ⟨rfl, rfl, notSign⟩ := expect_eq_error signFailed
      refine ⟨[keyword, name], rfl, .assignment ⟨[], keyword, name, opens, isName, rfl⟩,
        ⟨.binding keyword name someSign opens isName rfl .literalExpr, ?_⟩,
        fun ahead' same => ?_⟩
      · simp [Phrase.tokens]
      · rw [List.cons_append, List.singleton_append, behind, expect_of_kind isName]
        exact expect_bind_of_head? (same ▸ notSign) _
    · obtain ⟨rfl, assigns⟩ := expect_eq_ok signRead
      have isAssignment : sign.kind = .assignment := beq_iff_eq.mp assigns
      rcases bind_eq_error afterSign with valueFailed | ⟨_, _, finish⟩
      · obtain ⟨before, rfl, lacks, ⟨value, begun⟩, again⟩ :=
          valueStops height valueFailed shallow
        have opensValue : opensOperand sign = true := by
          simp [opensOperand, isAssignment]
        refine ⟨keyword :: name :: sign :: before, rfl,
          (lacks.cons opensValue).prepend (by simp) [keyword, name],
          ⟨.binding keyword name sign opens isName isAssignment value, ?_⟩,
          fun ahead' same => ?_⟩
        · simpa [Phrase.tokens] using begun
        · rw [List.cons_append, behind, List.cons_append, expect_of_kind isName]
          simp only [Except.bind, List.cons_append, expect_of_kind isAssignment,
            again ahead' same]
      · cases finish

/-- An expression stops as a binding or as a sum. -/
theorem diagnoses_exprWith
    (sumStops : ∀ height, Diagnoses (.chain .sum) (parserOf levels height (.chain .sum)))
    (valueStops : ∀ height, Diagnoses .expr (value levels height))
    (height : Nat) : Diagnoses .expr (parserOf levels height .expr) := by
  intro tokens fault ahead failed shallow
  by_cases binds : ∃ keyword rest, tokens = keyword :: rest ∧
    keyword.isKeyword "let" = true
  case pos =>
    obtain ⟨keyword, rest, rfl, opens⟩ := binds
    exact diagnoses_binding valueStops opens failed shallow
  case neg =>
    have plain (tokens : List Token)
        (other : ∀ token ∈ tokens.head?, token.isKeyword "let" = false) :
        parserOf levels height .expr tokens =
          parserOf levels height (.chain .sum) tokens := by
      cases tokens with
      | nil => rfl
      | cons token rest =>
          simp [parserOf, Expr.Parser.expr, exprWith, other token rfl]
    have other : ∀ token ∈ tokens.head?, token.isKeyword "let" = false := by
      intro token member
      refine Bool.eq_false_iff.mpr fun opens => binds ?_
      obtain ⟨rest, rfl⟩ := List.head?_eq_some_iff.mp member
      exact ⟨token, rest, rfl, opens⟩
    rw [plain tokens other] at failed
    obtain ⟨before, rfl, lacks, ⟨sum, begun⟩, again⟩ := sumStops height failed shallow
    refine ⟨before, rfl, lacks, ⟨.plain sum, begun⟩, fun ahead' same => ?_⟩
    rw [plain (before ++ ahead') (head?_append_congr same before ▸ other)]
    exact again ahead' same

end

/-- Expressions stop as told if the factors and values in them do. -/
theorem diagnoses_inside {levels : Nat}
    (factorStops : ∀ height, Diagnoses .factor (factor levels height))
    (valueStops : ∀ height, Diagnoses .expr (value levels height))
    (height : Nat) : Diagnoses .expr (parserOf levels height .expr) := by
  have termStops :
      ∀ height, Diagnoses (.chain .term) (parserOf levels height (.chain .term)) :=
    diagnoses_chain (c := .term) factorStops
  have sumStops :
      ∀ height, Diagnoses (.chain .sum) (parserOf levels height (.chain .sum)) :=
    diagnoses_chain (c := .sum) termStops
  exact diagnoses_exprWith sumStops valueStops height

/-- A parser that only ever finds the nesting too deep has nothing else to tell. -/
theorem diagnoses_of_tooDeep {level : Level} {parse : Parse}
    (deep : ∀ tokens, parse tokens = .error ⟨.tooDeep, tokens⟩) :
    Diagnoses level parse := by
  intro tokens fault ahead failed shallow
  rw [deep] at failed
  cases failed
  exact absurd rfl shallow

/-- Factors and values stop as told at every nesting: what is inside of them has
    one level less. -/
theorem diagnoses_nested (levels : Nat) :
    (∀ height, Diagnoses .factor (factor levels height)) ∧
      (∀ height, Diagnoses .expr (value levels height)) := by
  induction levels with
  | zero =>
      exact ⟨fun height => diagnoses_of_tooDeep fun tokens => by simp [Phrase.factor_eq],
        fun height => diagnoses_of_tooDeep fun tokens => by simp [Phrase.value_eq]⟩
  | succ levels inside =>
      have exprStops : ∀ height, Diagnoses .expr (parserOf levels height .expr) :=
        diagnoses_inside inside.1 inside.2
      constructor
      · intro height
        cases height with
        | zero => exact diagnoses_of_tooDeep fun tokens => rfl
        | succ height =>
            exact diagnoses_factorWith inside.1 (diagnoses_atom exprStops) height
      · intro height
        cases height with
        | zero => exact diagnoses_of_tooDeep fun tokens => rfl
        | succ height => exact exprStops height

/-- How the parser of expressions stops. -/
theorem diagnoses_expr (levels height : Nat) :
    Diagnoses .expr (parserOf levels height .expr) :=
  diagnoses_inside (diagnoses_nested levels).1 (diagnoses_nested levels).2 height

end Abacus.Grammar
