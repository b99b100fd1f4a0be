/-
Module: Abacus.Proofs.ParserAgreement
Purpose: The parser agrees with the grammar. Completeness is exact: what the
  parser does with the tokens of a phrase depends only on whether the phrase
  fits into the budgets it is given (`Phrase.Fits`); if so it returns the tree
  of the phrase and the tokens after it, else it reports that the nesting is too
  deep. Soundness says that the parser returns nothing else, and that it stops
  only where its level stops. The last part is why the loop over the power signs
  runs at most once: the exponent that was read stops where no power sign
  follows.
Main exports: Grammar.Phrase.Fits, Grammar.Phrase.Parsed, Grammar.Phrase.parsed,
  Grammar.Reads, Grammar.reads_expr, Grammar.ofTokens_implements_grammar
-/
import Abacus.Proofs.Grammar

namespace Abacus.Grammar

open Expr.Parser

/-!
### Budgets

A phrase fits if every routine that reads a part of it is given a level and a
unit of height. `Phrase.Fits` follows the constructors of a phrase and takes
from the budgets what the parser takes there.
-/

namespace Phrase

/-- Whether the phrase is within the budgets. Every factor and every value of a
    binding takes one level and one unit of height from what is inside it; every
    operator of a chain, and the operator of a power, takes one unit of height
    from what follows it. -/
def Fits : {level : Level} → Phrase level → (levels height : Nat) → Prop
  | _, .binding _ _ _ _ _ _ value, levels, height =>
      0 < levels ∧ 0 < height ∧ value.Fits (levels - 1) (height - 1)
  | _, .plain sum, levels, height => sum.Fits levels height
  | _, .one operand, levels, height => operand.Fits levels height
  | _, .more left _ _ right, levels, height =>
      left.Fits levels height ∧ right.Fits levels (height - (left.operators + 1))
  | _, .signed _ _ operand, levels, height =>
      0 < levels ∧ 0 < height ∧ operand.Fits (levels - 1) (height - 1)
  | _, .bare atom, levels, height =>
      0 < levels ∧ 0 < height ∧ atom.Fits (levels - 1) (height - 1)
  | _, .power base _ _ exponent, levels, height =>
      0 < levels ∧ 0 < height ∧ base.Fits (levels - 1) (height - 1) ∧
        exponent.Fits (levels - 1) (height - 1 - 1)
  | _, .number _ _, _, _ => True
  | _, .access _ _, _, _ => True
  | _, .brackets _ _ _ _ inner, levels, height => inner.Fits levels height

/-- Without a level and some height left nothing but an atom fits. -/
theorem Fits.pos {level : Level} {phrase : Phrase level} {levels height : Nat}
    (fits : phrase.Fits levels height) (composite : level ≠ .atom) :
    0 < levels ∧ 0 < height := by
  induction phrase with
  | binding keyword name sign opens named assigns value _ => exact ⟨fits.1, fits.2.1⟩
  | plain sum sumPos => exact sumPos fits (by simp)
  | @one chain operand operandPos => exact operandPos fits chain.operand_ne_atom
  | more left op joins right leftPos _ => exact leftPos fits.1 (by simp)
  | signed op signs operand _ => exact ⟨fits.1, fits.2.1⟩
  | bare atom _ => exact ⟨fits.1, fits.2.1⟩
  | power base op raises exponent _ _ => exact ⟨fits.1, fits.2.1⟩
  | number literal numeric => exact absurd rfl composite
  | access name named => exact absurd rfl composite
  | brackets opening closing opens closes inner _ => exact absurd rfl composite

end Phrase

/-!
### The parser of a level

The parsers of all levels under one name, so that a statement about phrases can
be made for every level at once. A chain may go on after an operand; `resume`
says how, and that is what a phrase in the middle of a chain is followed by.
-/

/-- The parser of a level, with the given budgets inside of it. -/
def parserOf (levels height : Nat) : Level → Parse
  | .expr => Expr.Parser.expr levels height
  | .chain .sum => sumWith (factor levels) height
  | .chain .term => Expr.Parser.chain isScaling (factor levels) height
  | .factor => factor levels height
  | .atom => atomWith (Expr.Parser.expr levels) height

theorem parserOf_chain (levels height : Nat) (c : Chain) :
    parserOf levels height (.chain c) =
      Expr.Parser.chain c.joins
        (fun height => parserOf levels height c.operand) height := by
  cases c <;> rfl

/-- What the parser of a level does once it has read a phrase: a chain goes on
    with its operators, and any other level is done. -/
def resume (levels height : Nat) (level : Level) (tree : Expr) (rest : List Token) :
    Except Failure (Expr × List Token) :=
  match level with
  | .chain c =>
      chainRest c.joins (fun height => parserOf levels height c.operand) height tree rest
  | _ => .ok (tree, rest)

/-- The outcome that the limits on nesting and height have. -/
def TooDeep (outcome : Except Failure (Expr × List Token)) : Prop :=
  ∃ ahead, outcome = .error ⟨.tooDeep, ahead⟩

/-- What goes on after too deep a nesting is not reached. -/
theorem TooDeep.bind {outcome : Except Failure (Expr × List Token)}
    (tooDeep : TooDeep outcome)
    (onward : Expr × List Token → Except Failure (Expr × List Token)) :
    TooDeep (outcome.bind onward) := by
  obtain ⟨ahead, rfl⟩ := tooDeep
  exact ⟨ahead, rfl⟩

/-- A token of the kind that is expected is taken. -/
theorem expect_of_kind {kind : Kind} {token : Token} (same : token.kind = kind)
    (fault : SyntaxFault) (rest : List Token) :
    expect (·.kind == kind) fault (token :: rest) = .ok (token, rest) := by
  simp [expect, same]

/-- Where none of its operators follows, a chain is done. -/
theorem chainRest_of_not_operator {isOperator : Token → Bool}
    {operand : Nat → Parse} (height : Nat) (left : Expr) {rest : List Token}
    (stops : ∀ token ∈ rest.head?, isOperator token = false) :
    chainRest isOperator operand height left rest = .ok (left, rest) := by
  cases rest with
  | nil => cases height <;> rfl
  | cons token rest =>
      have other := stops token rfl
      cases height <;> simp [chainRest, other]

/-- Where a factor stops, no power sign follows. -/
theorem chainRest_of_stops {operand : Nat → Parse} (height : Nat) (base : Expr)
    {rest : List Token} (stops : Level.factor.Stops rest) :
    chainRest isPower operand height base rest = .ok (base, rest) :=
  chainRest_of_not_operator height base stops

/-- An operator needs height. -/
theorem chainRest_zero {isOperator : Token → Bool} (operand : Nat → Parse)
    (left : Expr) {op : Token} (joins : isOperator op = true) (rest : List Token) :
    chainRest isOperator operand 0 left (op :: rest) =
      .error ⟨.tooDeep, op :: rest⟩ := by
  simp [chainRest, joins]

/-- An operator and the operand after it are taken in, and both leave less
    height. -/
theorem chainRest_succ {isOperator : Token → Bool} (operand : Nat → Parse)
    (height : Nat) (left : Expr) {op : Token} (joins : isOperator op = true)
    (rest : List Token) :
    chainRest isOperator operand (height + 1) left (op :: rest) =
      (operand height rest).bind fun (right, rest) =>
        chainRest isOperator operand height (.joinBinary op left right) rest := by
  simp only [chainRest, joins, if_true]
  rfl

/-- A level that stops is done. -/
theorem resume_of_stops (levels height : Nat) {level : Level} (tree : Expr)
    {rest : List Token} (stops : level.Stops rest) :
    resume levels height level tree rest = .ok (tree, rest) := by
  cases level with
  | chain c =>
      refine chainRest_of_not_operator height tree fun token member => ?_
      have closed := stops token member
      rw [c.goesOn_eq, Bool.or_eq_false_iff] at closed
      exact closed.2
  | expr => rfl
  | factor => rfl
  | atom => rfl

/-!
### Completeness

One lemma for each constructor of a phrase: if the parser reads its parts, it
reads the phrase, and if the budgets do not suffice, it says so. `Parsed` is
said for any tokens that come behind, as long as an operand may end there, since
a phrase is read in the middle of larger ones.
-/

/-- How the parser of its level reads the phrase wherever an operand may end:
    within the budgets it goes on after the phrase with the tree of the phrase,
    and outside of them the nesting is too deep. -/
def Phrase.Parsed {level : Level} (phrase : Phrase level) : Prop :=
  ∀ (levels height : Nat) (rest : List Token), level.operand.Stops rest →
    (phrase.Fits levels height →
      parserOf levels height level (phrase.tokens ++ rest) =
        resume levels (height - phrase.operators) level phrase.tree rest) ∧
    (¬ phrase.Fits levels height →
      TooDeep (parserOf levels height level (phrase.tokens ++ rest)))

namespace Phrase

/-- Where its level stops, the parser reads exactly the phrase. -/
theorem Parsed.eq_ok {level : Level} {phrase : Phrase level}
    (parsed : phrase.Parsed) {levels height : Nat} {rest : List Token}
    (stops : level.Stops rest) (fits : phrase.Fits levels height) :
    parserOf levels height level (phrase.tokens ++ rest) = .ok (phrase.tree, rest) := by
  rw [(parsed levels height rest (level.stops_operand stops)).1 fits]
  exact resume_of_stops levels _ phrase.tree stops

theorem Parsed.tooDeep {level : Level} {phrase : Phrase level}
    (parsed : phrase.Parsed) {levels height : Nat} {rest : List Token}
    (stops : level.Stops rest) (unfit : ¬ phrase.Fits levels height) :
    TooDeep (parserOf levels height level (phrase.tokens ++ rest)) :=
  (parsed levels height rest (level.stops_operand stops)).2 unfit

/-- A chain of one operand is read like the operand. -/
theorem parsed_one {chain : Chain} {operand : Phrase chain.operand}
    (operandParsed : operand.Parsed) : (Phrase.one operand).Parsed := by
  intro levels height rest stops
  rw [parserOf_chain]
  constructor
  · intro fits
    have read := operandParsed.eq_ok stops fits
    simp only [tokens, tree, operators, Expr.Parser.chain, read]
    rfl
  · intro unfit
    exact (operandParsed.tooDeep stops unfit).bind _

/-- A chain goes on over an operator and an operand if there is height for both. -/
theorem parsed_more {chain : Chain} {left : Phrase (.chain chain)} {op : Token}
    (joins : chain.joins op = true) {right : Phrase chain.operand}
    (leftParsed : left.Parsed) (rightParsed : right.Parsed) :
    (left.more op joins right).Parsed := by
  intro levels height rest stops
  have opStops : chain.operand.Stops (op :: (right.tokens ++ rest)) :=
    Level.stops_cons.mpr (Chain.operand_goesOn_of_joins joins)
  rw [tokens_more_append]
  by_cases leftFits : left.Fits levels height
  case neg =>
    refine ⟨fun fits => absurd fits.1 leftFits, fun _ => ?_⟩
    exact (leftParsed levels height _ opStops).2 leftFits
  case pos =>
    rw [(leftParsed levels height _ opStops).1 leftFits]
    have spent : height - (left.operators + 1) = height - left.operators - 1 := by omega
    cases left_over : height - left.operators with
    | zero =>
        have overdrawn :
            resume levels 0 (.chain chain) left.tree (op :: (right.tokens ++ rest)) =
              .error ⟨.tooDeep, op :: (right.tokens ++ rest)⟩ :=
          chainRest_zero
            (fun height => parserOf levels height chain.operand) left.tree joins _
        rw [left_over] at spent
        refine ⟨fun fits => ?_, fun _ => ⟨_, overdrawn⟩⟩
        have room := fits.2.pos chain.operand_ne_atom
        omega
    | succ n =>
        rw [left_over] at spent
        have onward : resume levels (n + 1) (.chain chain) left.tree
            (op :: (right.tokens ++ rest)) =
            (parserOf levels n chain.operand (right.tokens ++ rest)).bind
              fun (right, rest) =>
                resume levels n (.chain chain) (.joinBinary op left.tree right) rest :=
          chainRest_succ
            (fun height => parserOf levels height chain.operand) n left.tree joins _
        rw [onward]
        constructor
        · intro fits
          have rightFits : right.Fits levels n := by simpa [spent] using fits.2
          rw [rightParsed.eq_ok stops rightFits, operators, spent]
          rfl
        · intro unfit
          have rightUnfit : ¬ right.Fits levels n := by
            intro fits
            exact unfit ⟨leftFits, by simpa [spent] using fits⟩
          exact (rightParsed.tooDeep stops rightUnfit).bind _

/-- An expression without the keyword is read like a sum. -/
theorem parsed_plain {sum : Phrase (.chain .sum)} (sumParsed : sum.Parsed) :
    (Phrase.plain sum).Parsed := by
  intro levels height rest stops
  have same : parserOf levels height .expr ((Phrase.plain sum).tokens ++ rest) =
      parserOf levels height (.chain .sum) (sum.tokens ++ rest) := by
    obtain ⟨token, tail, spelled, plain, _⟩ := sum.exists_head
    simp [tokens, spelled, parserOf, Expr.Parser.expr, exprWith, plain]
  rw [same]
  exact ⟨sumParsed.eq_ok stops, sumParsed.tooDeep stops⟩

/-- The value of a binding takes a level and height from what is inside. -/
theorem value_eq (levels height : Nat) (tokens : List Token) :
    value levels height tokens =
      if 0 < levels ∧ 0 < height then parserOf (levels - 1) (height - 1) .expr tokens
      else .error ⟨.tooDeep, tokens⟩ := by
  cases levels <;> cases height <;> simp [value, parserOf, Expr.Parser.expr]

/-- A factor takes a level and height from what is inside. -/
theorem factor_eq (levels height : Nat) (tokens : List Token) :
    factor levels height tokens =
      if 0 < levels ∧ 0 < height then
        factorWith (factor (levels - 1)) (Expr.Parser.expr (levels - 1))
          (height - 1) tokens
      else .error ⟨.tooDeep, tokens⟩ := by
  cases levels <;> cases height <;> simp [factor, Expr.Parser.expr]

/-- After the keyword, a name and an assignment sign a binding is read like its
    value. -/
theorem parsed_binding {keyword name sign : Token}
    (opens : keyword.isKeyword "let" = true) (named : name.kind = .identifier)
    (assigns : sign.kind = .assignment) {value : Phrase .expr}
    (valueParsed : value.Parsed) :
    (binding keyword name sign opens named assigns value).Parsed := by
  intro levels height rest stops
  have same : parserOf levels height .expr
        ((binding keyword name sign opens named assigns value).tokens ++ rest) =
        (Expr.Parser.value levels height (value.tokens ++ rest)).bind
          fun (value, rest) =>
            .ok (.joinAssign keyword name value, rest) := by
    have readName :=
      expect_of_kind named .expectedName (sign :: (value.tokens ++ rest))
    have readSign := expect_of_kind assigns .expectedAssignment (value.tokens ++ rest)
    simp only [tokens, List.cons_append, parserOf, Expr.Parser.expr, exprWith,
      opens, if_true, bindingWith, bind, Except.bind, readName, readSign]
  rw [same, value_eq]
  by_cases room : 0 < levels ∧ 0 < height
  case neg =>
    rw [if_neg room]
    exact ⟨fun fits => absurd ⟨fits.1, fits.2.1⟩ room, fun _ => ⟨_, rfl⟩⟩
  case pos =>
    rw [if_pos room]
    constructor
    · intro fits
      rw [valueParsed.eq_ok stops fits.2.2]
      rfl
    · intro unfit
      exact (valueParsed.tooDeep stops fun fits => unfit ⟨room.1, room.2, fits⟩).bind _

/-- A factor is read if there is a level and height for it and if what is inside
    of it is read. -/
theorem parsed_factor {phrase : Phrase .factor} (Inside : (levels height : Nat) → Prop)
    (fits : ∀ levels height, phrase.Fits levels height ↔
      0 < levels ∧ 0 < height ∧ Inside (levels - 1) (height - 1))
    (read : ∀ levels height rest, Level.factor.Stops rest →
      (Inside levels height →
        factorWith (factor levels) (Expr.Parser.expr levels) height
          (phrase.tokens ++ rest) =
          .ok (phrase.tree, rest)) ∧
      (¬ Inside levels height →
        TooDeep (factorWith (factor levels) (Expr.Parser.expr levels) height
          (phrase.tokens ++ rest)))) : phrase.Parsed := by
  intro levels height rest stops
  rw [fits, parserOf, factor_eq]
  by_cases room : 0 < levels ∧ 0 < height
  case neg =>
    rw [if_neg room]
    exact ⟨fun inside => absurd ⟨inside.1, inside.2.1⟩ room, fun _ => ⟨_, rfl⟩⟩
  case pos =>
    rw [if_pos room]
    obtain ⟨done, failed⟩ := read (levels - 1) (height - 1) rest stops
    exact ⟨fun inside => done inside.2.2,
      fun unfit => failed fun inside => unfit ⟨room.1, room.2, inside⟩⟩

/-- A sign is read before a factor. -/
theorem parsed_signed {op : Token} (signs : isSign op = true)
    {operand : Phrase .factor} (operandParsed : operand.Parsed) :
    (Phrase.signed op signs operand).Parsed := by
  refine parsed_factor operand.Fits (fun _ _ => Iff.rfl)
    fun levels height rest stops => ?_
  have same : factorWith (factor levels) (Expr.Parser.expr levels) height
        ((Phrase.signed op signs operand).tokens ++ rest) =
        (parserOf levels height .factor (operand.tokens ++ rest)).bind
          fun (operand, rest) =>
            .ok (.joinUnary op operand, rest) := by
    simp [tokens, factorWith, signs, parserOf]
    rfl
  rw [same]
  constructor
  · intro fits
    rw [operandParsed.eq_ok stops fits]
    rfl
  · intro unfit
    exact (operandParsed.tooDeep stops unfit).bind _

/-- What begins with an atom is read as a power: the atom, and then the power
    signs. -/
theorem factorWith_atom (levels height : Nat) (atom : Phrase .atom)
    (rest : List Token) :
    factorWith (factor levels) (Expr.Parser.expr levels) height (atom.tokens ++ rest) =
      (parserOf levels height .atom (atom.tokens ++ rest)).bind fun (base, rest) =>
        chainRest isPower (factor levels) height base rest := by
  obtain ⟨token, tail, spelled, _, unsigned⟩ := atom.exists_head
  simp [spelled, factorWith, unsigned, powerWith, parserOf]
  rfl

/-- An atom is a factor where no power sign follows. -/
theorem parsed_bare {atom : Phrase .atom} (atomParsed : atom.Parsed) :
    (Phrase.bare atom).Parsed := by
  refine parsed_factor atom.Fits (fun _ _ => Iff.rfl) fun levels height rest stops => ?_
  rw [tokens, factorWith_atom]
  constructor
  · intro fits
    rw [atomParsed.eq_ok (Level.stops_atom rest) fits]
    exact chainRest_of_stops height atom.tree stops
  · intro unfit
    exact (atomParsed.tooDeep (Level.stops_atom rest) unfit).bind _

/-- A power is read in one turn of the loop over power signs, since its exponent
    is a whole factor. -/
theorem parsed_power {base : Phrase .atom} {op : Token}
    (raises : isPower op = true) {exponent : Phrase .factor}
    (baseParsed : base.Parsed) (exponentParsed : exponent.Parsed) :
    (Phrase.power base op raises exponent).Parsed := by
  refine parsed_factor
    (fun levels height => base.Fits levels height ∧ exponent.Fits levels (height - 1))
    (fun _ _ => Iff.rfl) fun levels height rest stops => ?_
  rw [tokens_power_append]
  by_cases baseFits : base.Fits levels height
  case neg =>
    refine ⟨fun fits => absurd fits.1 baseFits, fun _ => ?_⟩
    rw [factorWith_atom]
    exact (baseParsed.tooDeep (Level.stops_atom _) baseFits).bind _
  case pos =>
    have start : factorWith (factor levels) (Expr.Parser.expr levels) height
          (base.tokens ++ op :: (exponent.tokens ++ rest)) =
          chainRest isPower (factor levels) height base.tree
            (op :: (exponent.tokens ++ rest)) := by
      rw [factorWith_atom, baseParsed.eq_ok (Level.stops_atom _) baseFits]
      rfl
    rw [start]
    cases height with
    | zero =>
        refine ⟨fun fits => ?_,
          fun _ => ⟨_, chainRest_zero (factor levels) base.tree raises _⟩⟩
        exact absurd (fits.2.pos (by simp)).2 (Nat.lt_irrefl 0)
    | succ n =>
        have onward : chainRest isPower (factor levels) (n + 1) base.tree
              (op :: (exponent.tokens ++ rest)) =
              (parserOf levels n .factor (exponent.tokens ++ rest)).bind
                fun (right, rest) =>
                  chainRest isPower (factor levels) n
                    (.joinBinary op base.tree right) rest :=
          chainRest_succ (factor levels) n base.tree raises _
        rw [onward]
        constructor
        · intro fits
          have exponentFits : exponent.Fits levels n := fits.2
          rw [exponentParsed.eq_ok stops exponentFits]
          exact chainRest_of_stops n _ stops
        · intro unfit
          have exponentUnfit : ¬ exponent.Fits levels n :=
            fun fits => unfit ⟨baseFits, fits⟩
          exact (exponentParsed.tooDeep stops exponentUnfit).bind _

/-- An expression in brackets is read up to its closing bracket. -/
theorem parsed_brackets {opening closing : Token}
    (opens : opening.kind = .leftParen) (closes : closing.kind = .rightParen)
    {inner : Phrase .expr} (innerParsed : inner.Parsed) :
    (brackets opening closing opens closes inner).Parsed := by
  intro levels height rest _
  have same : parserOf levels height .atom
        ((brackets opening closing opens closes inner).tokens ++ rest) =
        (parserOf levels height .expr (inner.tokens ++ closing :: rest)).bind fun read =>
          (expect (·.kind == .rightParen) .unclosedBracket read.2).bind fun closed =>
            .ok (read.1, closed.2) := by
    simp [tokens, parserOf, atomWith, opens]
    rfl
  have stops := stops_rightParen closes rest
  rw [same]
  constructor
  · intro fits
    rw [innerParsed.eq_ok stops fits]
    simp [Except.bind, expect, closes, resume, tree]
  · intro unfit
    exact (innerParsed.tooDeep stops unfit).bind _

/-- The parser reads every phrase that fits, and rejects every other one as too
    deep. -/
theorem parsed {level : Level} (phrase : Phrase level) : phrase.Parsed := by
  induction phrase with
  | binding keyword name sign opens named assigns value valueParsed =>
      exact parsed_binding opens named assigns valueParsed
  | plain sum sumParsed => exact parsed_plain sumParsed
  | one operand operandParsed => exact parsed_one operandParsed
  | more left op joins right leftParsed rightParsed =>
      exact parsed_more joins leftParsed rightParsed
  | signed op signs operand operandParsed => exact parsed_signed signs operandParsed
  | bare atom atomParsed => exact parsed_bare atomParsed
  | power base op raises exponent baseParsed exponentParsed =>
      exact parsed_power raises baseParsed exponentParsed
  | number literal numeric =>
      intro levels height rest _
      refine ⟨fun _ => ?_, fun unfit => absurd trivial unfit⟩
      rcases numeric with kind | kind
        <;> simp [tokens, parserOf, atomWith, kind, resume, tree]
  | access name named =>
      intro levels height rest _
      refine ⟨fun _ => ?_, fun unfit => absurd trivial unfit⟩
      simp [tokens, parserOf, atomWith, named, resume, tree]
  | brackets opening closing opens closes inner innerParsed =>
      exact parsed_brackets opens closes innerParsed

end Phrase

/-!
### Soundness

One lemma for each routine of the parser: whatever it returns is the tree of a
phrase, and the level stops where the rest begins. The phrase is put together
from those of the routines inside, and the loop of a chain extends the phrase of
what stands on its left.
-/

/-- Whatever the parser returns is the tree of a phrase of the level, which
    spells the tokens that were taken, and the level stops where the tokens that
    are left begin. -/
def Reads (level : Level) (parse : Parse) : Prop :=
  ∀ ⦃tokens : List Token⦄ ⦃tree : Expr⦄ ⦃rest : List Token⦄,
    parse tokens = .ok (tree, rest) →
    ∃ phrase : Phrase level,
      phrase.tree = tree ∧ phrase.tokens ++ rest = tokens ∧ level.Stops rest

/-- A sequence of two steps succeeds only if both do. -/
theorem bind_eq_ok {α β : Type} {first : Except Failure α}
    {next : α → Except Failure β} {result : β} (done : (first >>= next) = .ok result) :
    ∃ a, first = .ok a ∧ next a = .ok result := by
  cases first with
  | error failure => cases done
  | ok a => exact ⟨a, rfl, done⟩

theorem expect_eq_ok {test : Token → Bool} {fault : SyntaxFault}
    {tokens rest : List Token} {token : Token}
    (done : expect test fault tokens = .ok (token, rest)) :
    tokens = token :: rest ∧ test token = true := by
  cases tokens with
  | nil => cases done
  | cons head tail =>
      cases passes : test head with
      | true =>
          simp only [expect, passes, if_true] at done
          cases done
          exact ⟨rfl, passes⟩
      | false =>
          simp only [expect, passes] at done
          cases done

/-- The rest of a chain extends the phrase of its first operands. -/
theorem reads_chainRest {c : Chain} {operand : Nat → Parse}
    (reads : ∀ height, Reads c.operand (operand height)) {tree : Expr}
    {rest : List Token} :
    ∀ (height : Nat) (left : Phrase (.chain c)) (tokens : List Token),
      c.operand.Stops tokens →
      chainRest c.joins operand height left.tree tokens = .ok (tree, rest) →
      ∃ phrase : Phrase (.chain c),
        phrase.tree = tree ∧ phrase.tokens ++ rest = left.tokens ++ tokens ∧
        (Level.chain c).Stops rest
  | height, left, [], _, done => by
      cases height <;>
        · cases done
          exact ⟨left, rfl, rfl, Level.stops_nil _⟩
  | height, left, op :: tokens, stops, done => by
      cases joins : c.joins op with
      | false =>
          rw [chainRest_of_not_operator height left.tree (by simpa using joins)] at done
          cases done
          have closed : (Level.chain c).Stops (op :: tokens) := by
            rw [Level.stops_cons] at stops ⊢
            rw [c.goesOn_eq, stops, joins, Bool.or_false]
          exact ⟨left, rfl, rfl, closed⟩
      | true =>
          cases height with
          | zero =>
              rw [chainRest_zero operand left.tree joins] at done
              cases done
          | succ height =>
              rw [chainRest_succ operand height left.tree joins] at done
              obtain ⟨⟨_, tokens'⟩, readRight, onward⟩ := bind_eq_ok done
              obtain ⟨right, rfl, rfl, rightStops⟩ := reads height readRight
              obtain ⟨phrase, written, spelled, closed⟩ :=
                reads_chainRest reads height
                  (left.more op joins right) tokens' rightStops onward
              exact ⟨phrase, written, by simp [spelled, Phrase.tokens], closed⟩

theorem reads_chain {c : Chain} {operand : Nat → Parse}
    (reads : ∀ height, Reads c.operand (operand height)) (height : Nat) :
    Reads (.chain c) (Expr.Parser.chain c.joins operand height) := by
  intro tokens tree rest done
  obtain ⟨⟨_, tokens'⟩, readFirst, onward⟩ := bind_eq_ok done
  obtain ⟨first, rfl, rfl, firstStops⟩ := reads height readFirst
  exact reads_chainRest reads height (.one first) tokens' firstStops onward

section

variable {factor value : Nat → Parse}

theorem reads_sumWith (readsFactor : ∀ height, Reads .factor (factor height))
    (height : Nat) : Reads (.chain .sum) (sumWith factor height) := by
  have readsTerm : ∀ height,
      Reads Chain.sum.operand (Expr.Parser.chain isScaling factor height) :=
    reads_chain (c := .term) readsFactor
  exact reads_chain readsTerm height

theorem reads_exprWith (readsFactor : ∀ height, Reads .factor (factor height))
    (readsValue : ∀ height, Reads .expr (value height)) (height : Nat) :
    Reads .expr (exprWith factor value height) := by
  have readsPlain : Reads .expr (sumWith factor height) := by
    intro tokens tree rest done
    obtain ⟨sum, written, spelled, closed⟩ := reads_sumWith readsFactor height done
    exact ⟨.plain sum, written, spelled, closed⟩
  intro tokens tree rest done
  cases tokens with
  | nil => exact readsPlain done
  | cons keyword tokens =>
      rw [exprWith] at done
      split at done
      case isFalse => exact readsPlain done
      case isTrue opens =>
        obtain ⟨⟨name, tokens'⟩, readName, afterName⟩ := bind_eq_ok done
        obtain ⟨⟨sign, tokens''⟩, readSign, afterSign⟩ := bind_eq_ok afterName
        obtain ⟨⟨_, rest'⟩, readValue, finish⟩ := bind_eq_ok afterSign
        obtain ⟨rfl, named⟩ := expect_eq_ok readName
        obtain ⟨rfl, assigns⟩ := expect_eq_ok readSign
        obtain ⟨value, rfl, rfl, closed⟩ := readsValue height readValue
        cases finish
        exact ⟨.binding keyword name sign opens (beq_iff_eq.mp named)
            (beq_iff_eq.mp assigns) value,
            rfl, rfl, closed⟩

theorem reads_atomWith {expr : Nat → Parse}
    (readsExpr : ∀ height, Reads .expr (expr height)) (height : Nat) :
    Reads .atom (atomWith expr height) := by
  intro tokens tree rest done
  cases tokens with
  | nil => cases done
  | cons token tokens =>
      rw [atomWith] at done
      split at done
      case h_1 kind =>
        cases done
        exact ⟨.number token (.inl kind), rfl, rfl, Level.stops_atom rest⟩
      case h_2 kind =>
        cases done
        exact ⟨.number token (.inr kind), rfl, rfl, Level.stops_atom rest⟩
      case h_3 kind =>
        cases done
        exact ⟨.access token kind, rfl, rfl, Level.stops_atom rest⟩
      case h_4 opens =>
        obtain ⟨⟨_, tokens'⟩, readInner, afterInner⟩ := bind_eq_ok done
        obtain ⟨⟨closing, rest'⟩, readClosing, finish⟩ := bind_eq_ok afterInner
        obtain ⟨inner, rfl, rfl, _⟩ := readsExpr height readInner
        obtain ⟨rfl, closes⟩ := expect_eq_ok readClosing
        cases finish
        exact ⟨.brackets token closing opens (beq_iff_eq.mp closes) inner, rfl,
          by simp [Phrase.tokens], Level.stops_atom rest⟩
      case h_5 => cases done

/-- The loop over power signs is left after one turn, since an exponent stops
    where no sign follows. -/
theorem reads_powerWith {expr : Nat → Parse}
    (readsFactor : ∀ height, Reads .factor (factor height))
    (readsExpr : ∀ height, Reads .expr (expr height)) (height : Nat) :
    Reads .factor (powerWith factor expr height) := by
  intro tokens tree rest done
  obtain ⟨⟨_, tokens'⟩, readBase, onward⟩ := bind_eq_ok done
  obtain ⟨base, rfl, rfl, _⟩ := reads_atomWith readsExpr height readBase
  change chainRest isPower factor height base.tree tokens' = .ok (tree, rest) at onward
  by_cases stops : Level.factor.Stops tokens'
  case pos =>
    rw [chainRest_of_stops height base.tree stops] at onward
    cases onward
    exact ⟨.bare base, rfl, rfl, stops⟩
  case neg =>
    obtain ⟨op, tokens', rfl, raises⟩ :
        ∃ op rest, tokens' = op :: rest ∧ isPower op = true := by
      cases tokens' with
      | nil => exact absurd (Level.stops_nil _) stops
      | cons op rest => exact ⟨op, rest, rfl, by simpa [Level.goesOn] using stops⟩
    cases height with
    | zero =>
        rw [chainRest_zero factor base.tree raises] at onward
        cases onward
    | succ height =>
        rw [chainRest_succ factor height base.tree raises] at onward
        obtain ⟨⟨_, rest'⟩, readExponent, finish⟩ := bind_eq_ok onward
        obtain ⟨exponent, rfl, rfl, closed⟩ := readsFactor height readExponent
        change chainRest isPower factor height _ rest' = .ok (tree, rest) at finish
        rw [chainRest_of_stops height _ closed] at finish
        cases finish
        exact ⟨.power base op raises exponent, rfl, by simp [Phrase.tokens], closed⟩

theorem reads_factorWith {expr : Nat → Parse}
    (readsFactor : ∀ height, Reads .factor (factor height))
    (readsExpr : ∀ height, Reads .expr (expr height)) (height : Nat) :
    Reads .factor (factorWith factor expr height) := by
  intro tokens tree rest done
  cases tokens with
  | nil => exact reads_powerWith readsFactor readsExpr height done
  | cons op tokens =>
      rw [factorWith] at done
      split at done
      case isFalse => exact reads_powerWith readsFactor readsExpr height done
      case isTrue signs =>
        obtain ⟨⟨_, rest'⟩, readOperand, finish⟩ := bind_eq_ok done
        obtain ⟨operand, rfl, rfl, closed⟩ := readsFactor height readOperand
        cases finish
        exact ⟨.signed op signs operand, rfl, rfl, closed⟩

end

/-- Factors and values are sound at every nesting: what is inside of them has
    one level less. -/
theorem reads_nested (levels : Nat) :
    (∀ height, Reads .factor (factor levels height)) ∧
      (∀ height, Reads .expr (value levels height)) := by
  induction levels with
  | zero =>
      refine ⟨fun height tokens tree rest done => ?_,
        fun height tokens tree rest done => ?_⟩
      · rw [Phrase.factor_eq] at done
        cases done
      · rw [Phrase.value_eq] at done
        cases done
  | succ levels inside =>
      obtain ⟨readsFactor, readsValue⟩ := inside
      have readsExpr : ∀ height, Reads .expr (Expr.Parser.expr levels height) :=
        reads_exprWith readsFactor readsValue
      constructor
      · intro height
        cases height with
        | zero =>
            intro tokens tree rest done
            cases done
        | succ height => exact reads_factorWith readsFactor readsExpr height
      · intro height
        cases height with
        | zero =>
            intro tokens tree rest done
            cases done
        | succ height => exact readsExpr height

/-- The parser of expressions is sound. -/
theorem reads_expr (levels height : Nat) :
    Reads .expr (Expr.Parser.expr levels height) :=
  reads_exprWith (reads_nested levels).1 (reads_nested levels).2 height

/-!
### Whole token lists

What stands before the end of the input is parsed, with the whole of the
budgets. The phrase is unique, so whether it fits decides between the tree and
the refusal as too deep.
-/

theorem whole_of_fits {levels height : Nat} {phrase : Phrase .expr}
    (fits : phrase.Fits levels height) :
    whole levels height phrase.tokens = .ok phrase.tree := by
  have read :
      Expr.Parser.expr levels height (phrase.tokens ++ []) = .ok (phrase.tree, []) :=
    phrase.parsed.eq_ok (Level.stops_nil .expr) fits
  rw [List.append_nil] at read
  rw [whole, read]

theorem whole_of_not_fits {levels height : Nat} {phrase : Phrase .expr}
    (unfit : ¬ phrase.Fits levels height) :
    ∃ ahead, whole levels height phrase.tokens = .error ⟨.tooDeep, ahead⟩ := by
  obtain ⟨ahead, failed⟩ := phrase.parsed.tooDeep (Level.stops_nil .expr) unfit
  change Expr.Parser.expr levels height (phrase.tokens ++ []) = _ at failed
  rw [List.append_nil] at failed
  exact ⟨ahead, by rw [whole, failed]⟩

theorem exists_phrase_of_whole {levels height : Nat} {tokens : List Token}
    {tree : Expr} (done : whole levels height tokens = .ok tree) :
    ∃ phrase : Phrase .expr, phrase.tokens = tokens ∧ phrase.tree = tree := by
  unfold whole at done
  split at done
  case h_1 read =>
    cases done
    obtain ⟨phrase, written, spelled, _⟩ := reads_expr levels height read
    exact ⟨phrase, by rw [← spelled, List.append_nil], written⟩
  case h_2 => cases done
  case h_3 => cases done

/-- The accepted token lists are those that a phrase within the limits spells,
    up to the end of the input. -/
theorem ofTokens_eq_ok_iff {tokens : List Token} {tree : Expr} :
    Expr.ofTokens tokens = .ok tree ↔
      ∃ phrase : Phrase .expr, phrase.tokens = Token.beforeEnd tokens ∧
        phrase.tree = tree ∧
        phrase.Fits greatestNesting greatestHeight := by
  constructor
  · intro done
    cases parsed : whole greatestNesting greatestHeight (Token.beforeEnd tokens) with
    | error failure =>
        rw [Expr.ofTokens, parsed] at done
        cases done
    | ok result =>
        rw [Expr.ofTokens, parsed] at done
        cases done
        obtain ⟨phrase, spelled, written⟩ := exists_phrase_of_whole parsed
        refine ⟨phrase, spelled, written, Classical.byContradiction fun unfit => ?_⟩
        obtain ⟨ahead, failed⟩ := whole_of_not_fits unfit
        rw [spelled, parsed] at failed
        cases failed
  · rintro ⟨phrase, spelled, rfl, fits⟩
    rw [Expr.ofTokens, ← spelled, whole_of_fits fits]
    rfl

/-- Tokens that a phrase beyond the limits spells are rejected as too deep. -/
theorem ofTokens_of_not_fits {tokens : List Token} {phrase : Phrase .expr}
    (spelled : phrase.tokens = Token.beforeEnd tokens)
    (unfit : ¬ phrase.Fits greatestNesting greatestHeight) :
    ∃ span, Expr.ofTokens tokens = .error (.grammatical .tooDeep span) := by
  obtain ⟨ahead, failed⟩ := whole_of_not_fits unfit
  rw [Expr.ofTokens, ← spelled, failed]
  exact ⟨_, rfl⟩

/-- Tokens that are not accepted have a syntax fault. -/
theorem ofTokens_eq_ok_or_grammatical (tokens : List Token) :
    (∃ tree, Expr.ofTokens tokens = .ok tree) ∨
      ∃ fault span, Expr.ofTokens tokens = .error (.grammatical fault span) := by
  unfold Expr.ofTokens
  cases whole greatestNesting greatestHeight (Token.beforeEnd tokens) with
  | ok tree => exact .inl ⟨tree, rfl⟩
  | error failure => exact .inr ⟨failure.fault, _, rfl⟩

/-- The parser implements the grammar. An accepted token list is derived by it
    up to the end of the input, with the tree that was returned. A token list
    that is derived has that tree, or is rejected as too deep if its derivation
    is beyond the limits. Every other token list has a syntax fault. And no
    token list has two derivations. -/
theorem ofTokens_implements_grammar (tokens : List Token) :
    (∀ tree, Expr.ofTokens tokens = .ok tree →
      Derives .expr (Token.beforeEnd tokens) tree) ∧
      (∀ phrase : Phrase .expr, phrase.tokens = Token.beforeEnd tokens →
        (phrase.Fits greatestNesting greatestHeight ∧
          Expr.ofTokens tokens = .ok phrase.tree) ∨
        (¬ phrase.Fits greatestNesting greatestHeight ∧
          ∃ diagnostic, Expr.ofTokens tokens = .error diagnostic ∧
            diagnostic.kindName = "Syntax Error" ∧
            diagnostic.message = "expression nested too deeply")) ∧
      ((¬ ∃ tree, Derives .expr (Token.beforeEnd tokens) tree) →
        ∃ diagnostic, Expr.ofTokens tokens = .error diagnostic ∧
          diagnostic.kindName = "Syntax Error") ∧
      (∀ p q : Phrase .expr, p.tokens = q.tokens → p = q) := by
  refine ⟨fun tree done => ?_, fun phrase spelled => ?_, fun underived => ?_, ?_⟩
  · obtain ⟨phrase, spelled, written, _⟩ := ofTokens_eq_ok_iff.mp done
    exact ⟨phrase, spelled, written⟩
  · by_cases fits : phrase.Fits greatestNesting greatestHeight
    · exact .inl ⟨fits, ofTokens_eq_ok_iff.mpr ⟨phrase, spelled, rfl, fits⟩⟩
    · obtain ⟨span, failed⟩ := ofTokens_of_not_fits spelled fits
      exact .inr ⟨fits, _, failed, rfl, rfl⟩
  · rcases ofTokens_eq_ok_or_grammatical tokens with ⟨tree, done⟩ | ⟨fault, span, failed⟩
    · obtain ⟨phrase, spelled, written, _⟩ := ofTokens_eq_ok_iff.mp done
      exact absurd ⟨tree, phrase, spelled, written⟩ underived
    · exact ⟨_, failed, rfl⟩
  · intro p q same
    exact Phrase.tokens_injective same

end Abacus.Grammar
