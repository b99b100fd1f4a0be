/-
Module: Abacus.Proofs.TreeHeight
Purpose: How high the tree of an accepted source can be. The parser counts the
  operators of a chain that stand before an operand, while the tree puts above
  an operand those that stand after it. So the limit on height does not bound
  the tree: an operand that is not the last of its chain may be as high as if it
  stood alone, and the chain goes on top of it. What the limits do bound is
  `tallest`, a chain of terms and a chain of factors at every nesting, and there
  is a source whose tree is that high. The limit holds for the trees in which no
  chain grows over what stands before its last operator (`Phrase.Even`).
Main exports: Grammar.tallest, Grammar.Phrase.height_le, Grammar.Phrase.Within,
  Grammar.Phrase.Even, Grammar.Phrase.height_le_of_even, Grammar.exists_tallest,
  Grammar.height_of_accepted_source, Grammar.highest_accepted_source
-/
import Abacus.Proofs.ParserAgreement

namespace Abacus

namespace Expr

/-- Every path from the root to a leaf has at least the leaf. -/
theorem height_pos (e : Expr) : 0 < e.height := by
  cases e <;> exact Nat.succ_pos _

@[simp] theorem height_joinUnary (op : Token) (operand : Expr) :
    (joinUnary op operand).height = operand.height + 1 := rfl

@[simp] theorem height_joinBinary (op : Token) (left right : Expr) :
    (joinBinary op left right).height = max left.height right.height + 1 := rfl

@[simp] theorem height_joinAssign (keyword name : Token) (value : Expr) :
    (joinAssign keyword name value).height = value.height + 1 := rfl

end Expr

namespace Grammar

open Expr.Parser

/-!
### The bound

How high a tree can be within the budgets: a bracket opens a level, in which two
chains can grow. In a chain the operators behind an operand are not counted by
the parser while it reads the operand, so they come on top of what it may be;
`Bounded` counts those that are still to come. By induction on the phrase.
-/

/-- The height of the highest tree within the budgets. A factor may be an
    expression in brackets, one higher as the base of a power, and both chains
    around it may have an operator less than there is height. -/
def tallest : (levels height : Nat) → Nat
  | levels + 1, height + 1 => tallest levels height + 2 * height + 1
  | _, _ => 0

theorem tallest_pos {levels height : Nat} (someLevels : 0 < levels)
    (someHeight : 0 < height) : 0 < tallest levels height := by
  cases levels with
  | zero => contradiction
  | succ levels =>
      cases height with
      | zero => contradiction
      | succ height => exact Nat.succ_pos _

/-- Opening a level costs one unit of height. -/
theorem tallest_eq {levels height : Nat} (someLevels : 0 < levels)
    (someHeight : 0 < height) :
    tallest levels height =
      tallest (levels - 1) (height - 1) + 2 * (height - 1) + 1 := by
  cases levels with
  | zero => contradiction
  | succ levels =>
      cases height with
      | zero => contradiction
      | succ height => rfl

theorem tallest_le_succ (levels height : Nat) :
    tallest levels height ≤ tallest levels (height + 1) := by
  induction levels generalizing height with
  | zero => simp [tallest]
  | succ levels inside =>
      cases height with
      | zero => simp [tallest]
      | succ height =>
          have step := inside height
          simp only [tallest]
          omega

/-- Every unit of height is worth an operator in each of two chains. -/
theorem tallest_add {levels height : Nat} (someLevels : 0 < levels)
    (someHeight : 0 < height) (more : Nat) :
    tallest levels height + 2 * more ≤ tallest levels (height + more) := by
  induction more with
  | zero => simp
  | succ more grown =>
      have before := tallest_eq someLevels
        (Nat.lt_of_lt_of_le someHeight (Nat.le_add_right height more))
      have after : tallest levels (height + more + 1) =
          tallest (levels - 1) (height + more) + 2 * (height + more) + 1 :=
        tallest_eq someLevels (Nat.succ_pos _)
      have step := tallest_le_succ (levels - 1) (height + more - 1)
      have same : height + more - 1 + 1 = height + more := by omega
      rw [same] at step
      rw [← Nat.add_assoc]
      omega

/-- How many chains may stand around a phrase of the level without a bracket
    between them. -/
def Level.chainsAround : Level → Nat
  | .factor => 2
  | .chain .term => 1
  | _ => 0

theorem Chain.chainsAround_operand (chain : Chain) :
    chain.operand.chainsAround = (Level.chain chain).chainsAround + 1 := by
  cases chain <;> rfl

namespace Phrase

/-- Every operator of a chain has used up height. -/
theorem operators_lt {chain : Chain} {phrase : Phrase (.chain chain)}
    {levels height : Nat} (fits : phrase.Fits levels height) :
    phrase.operators < height := by
  cases phrase with
  | one operand => exact (fits.pos (by simp)).2
  | more left op joins right =>
      have room := fits.2.pos chain.operand_ne_atom
      simp only [operators]
      omega

/-- The tree of the phrase, with the operators still to come in the chains
    around it, is within the bound. -/
def Bounded {level : Level} (phrase : Phrase level) : Prop :=
  ∀ levels height, phrase.Fits levels height →
    phrase.tree.height + level.operand.chainsAround * (height - 1) ≤
      max 1 (tallest levels height) + phrase.operators

theorem Bounded.le {level : Level} {phrase : Phrase level} (bounded : phrase.Bounded)
    {levels height : Nat} (fits : phrase.Fits levels height) :
    phrase.tree.height + level.chainsAround * (height - 1) ≤
      max 1 (tallest levels height) := by
  have bound := bounded levels height fits
  cases level with
  | chain chain =>
      have fewer := operators_lt fits
      rw [Level.operand, chain.chainsAround_operand, Nat.add_mul] at bound
      omega
  | expr => cases phrase <;> exact bound
  | factor => cases phrase <;> exact bound
  | atom => cases phrase <;> exact bound

/-- An operator adds one to the tree of a chain, and takes one from the height
    that was left. -/
theorem bounded_more {chain : Chain} {left : Phrase (.chain chain)} {op : Token}
    (joins : chain.joins op = true) {right : Phrase chain.operand}
    (leftBounded : left.Bounded) (rightBounded : right.Bounded) :
    (left.more op joins right).Bounded := by
  intro levels height fits
  have room := fits.2.pos chain.operand_ne_atom
  have fewer : (left.more op joins right).operators < height := operators_lt fits
  have leftBound := leftBounded levels height fits.1
  have rightBound := rightBounded.le fits.2
  have positive := tallest_pos room.1 room.2
  have grown := tallest_add room.1 room.2 (left.operators + 1)
  simp only [operators] at fewer
  rw [Nat.sub_add_cancel (Nat.le_of_lt fewer)] at grown
  simp only [tree, operators, Expr.height_joinBinary, Level.operand] at leftBound ⊢
  cases chain <;> simp only [Chain.operand, Level.chainsAround]
    at leftBound rightBound ⊢ <;> omega

theorem bounded_binding {keyword name sign : Token}
    (opens : keyword.isKeyword "let" = true) (named : name.kind = .identifier)
    (assigns : sign.kind = .assignment) {value : Phrase .expr}
    (valueBounded : value.Bounded) :
    (binding keyword name sign opens named assigns value).Bounded := by
  intro levels height fits
  have inner := tallest_eq fits.1 fits.2.1
  have room := fits.2.2.pos (by simp)
  have positive := tallest_pos room.1 room.2
  have bound := valueBounded.le fits.2.2
  simp only [tree, operators, Expr.height_joinAssign, Level.operand, Level.chainsAround]
    at bound ⊢
  omega

theorem bounded_signed {op : Token} (signs : isSign op = true)
    {operand : Phrase .factor} (operandBounded : operand.Bounded) :
    (signed op signs operand).Bounded := by
  intro levels height fits
  have inner := tallest_eq fits.1 fits.2.1
  have room := fits.2.2.pos (by simp)
  have positive := tallest_pos room.1 room.2
  have bound := operandBounded.le fits.2.2
  simp only [tree, operators, Expr.height_joinUnary, Level.operand, Level.chainsAround]
    at bound ⊢
  omega

theorem bounded_bare {atom : Phrase .atom} (atomBounded : atom.Bounded) :
    (bare atom).Bounded := by
  intro levels height fits
  have inner := tallest_eq fits.1 fits.2.1
  have bound := atomBounded.le fits.2.2
  simp only [tree, operators, Level.operand, Level.chainsAround] at bound ⊢
  omega

/-- The base of a power is as high as it may be, and the exponent has one unit
    of height less. -/
theorem bounded_power {base : Phrase .atom} {op : Token}
    (raises : isPower op = true) {exponent : Phrase .factor}
    (baseBounded : base.Bounded) (exponentBounded : exponent.Bounded) :
    (base.power op raises exponent).Bounded := by
  intro levels height fits
  have inner := tallest_eq fits.1 fits.2.1
  have room := fits.2.2.2.pos (by simp)
  have positive := tallest_pos room.1 room.2
  have less : height - 1 - 1 + 1 = height - 1 := by omega
  have grown := tallest_le_succ (levels - 1) (height - 1 - 1)
  rw [less] at grown
  have baseBound := baseBounded.le fits.2.2.1
  have exponentBound := exponentBounded.le fits.2.2.2
  simp only [tree, operators, Expr.height_joinBinary, Level.operand, Level.chainsAround]
    at baseBound exponentBound ⊢
  omega

theorem bounded {level : Level} (phrase : Phrase level) : phrase.Bounded := by
  induction phrase with
  | binding keyword name sign opens named assigns value valueBounded =>
      exact bounded_binding opens named assigns valueBounded
  | plain sum sumBounded => exact fun levels height fits => sumBounded.le fits
  | one operand operandBounded =>
      exact fun levels height fits => operandBounded.le fits
  | more left op joins right leftBounded rightBounded =>
      exact bounded_more joins leftBounded rightBounded
  | signed op signs operand operandBounded =>
      exact bounded_signed signs operandBounded
  | bare atom atomBounded => exact bounded_bare atomBounded
  | power base op raises exponent baseBounded exponentBounded =>
      exact bounded_power raises baseBounded exponentBounded
  | number literal numeric =>
      intro levels height fits
      simp only [tree, operators, Expr.height, Level.operand, Level.chainsAround]
      omega
  | access name named =>
      intro levels height fits
      simp only [tree, operators, Expr.height, Level.operand, Level.chainsAround]
      omega
  | brackets opening closing opens closes inner innerBounded =>
      exact fun levels height fits => innerBounded.le fits

/-- Within the budgets no tree of an expression is higher than the bound. -/
theorem height_le {phrase : Phrase .expr} {levels height : Nat}
    (fits : phrase.Fits levels height) :
    phrase.tree.height ≤ tallest levels height := by
  have room := fits.pos (by simp)
  have positive := tallest_pos room.1 room.2
  have bound := phrase.bounded.le fits
  simp only [Level.chainsAround] at bound
  omega

/-!
### Trees within the limit

What would have to be counted for the limit to hold: the operators on both
sides. The two counts agree on phrases that are even, which is a condition on
every chain by itself.
-/

/-- Whether the tree of the phrase is within the height, told by the phrase
    alone. Every operator takes one unit of height from both of its sides, so of
    a chain the operators after an operand count, where `Phrase.Fits` counts
    those before it. -/
def Within : {level : Level} → Phrase level → (height : Nat) → Prop
  | _, .binding _ _ _ _ _ _ value, height => 0 < height ∧ value.Within (height - 1)
  | _, .plain sum, height => sum.Within height
  | _, .one operand, height => operand.Within height
  | _, .more left _ _ right, height =>
      0 < height ∧ left.Within (height - 1) ∧ right.Within (height - 1)
  | _, .signed _ _ operand, height => 0 < height ∧ operand.Within (height - 1)
  | _, .bare atom, height => atom.Within height
  | _, .power base _ _ exponent, height =>
      0 < height ∧ base.Within (height - 1) ∧ exponent.Within (height - 1)
  | _, .number _ _, height => 0 < height
  | _, .access _ _, height => 0 < height
  | _, .brackets _ _ _ _ inner, height => inner.Within height

/-- A phrase is within a height exactly if its tree is. -/
theorem within_iff {level : Level} (phrase : Phrase level) (height : Nat) :
    phrase.Within height ↔ phrase.tree.height ≤ height := by
  induction phrase generalizing height with
  | binding keyword name sign opens named assigns value valueIff =>
      simp only [Within, valueIff, tree, Expr.height_joinAssign]
      omega
  | plain sum sumIff => exact sumIff height
  | one operand operandIff => exact operandIff height
  | more left op joins right leftIff rightIff =>
      simp only [Within, leftIff, rightIff, tree, Expr.height_joinBinary]
      omega
  | signed op signs operand operandIff =>
      simp only [Within, operandIff, tree, Expr.height_joinUnary]
      omega
  | bare atom atomIff => exact atomIff height
  | power base op raises exponent baseIff exponentIff =>
      simp only [Within, baseIff, exponentIff, tree, Expr.height_joinBinary]
      omega
  | number literal numeric => exact Iff.rfl
  | access name named => exact Iff.rfl
  | brackets opening closing opens closes inner innerIff => exact innerIff height

/-- Whether every chain is as high as its last operand makes it: what stands
    before the last operator is at most as many levels higher than the operand
    after it as it has operators. -/
def Even : {level : Level} → Phrase level → Prop
  | _, .binding _ _ _ _ _ _ value => value.Even
  | _, .plain sum => sum.Even
  | _, .one operand => operand.Even
  | _, .more left _ _ right =>
      left.tree.height ≤ left.operators + right.tree.height ∧ right.Even
  | _, .signed _ _ operand => operand.Even
  | _, .bare atom => atom.Even
  | _, .power base _ _ exponent => base.Even ∧ exponent.Even
  | _, .number _ _ => True
  | _, .access _ _ => True
  | _, .brackets _ _ _ _ inner => inner.Even

/-- An even tree is no higher than the height that its phrase was given. -/
theorem height_le_of_even {level : Level} {phrase : Phrase level}
    (even : phrase.Even) {levels height : Nat}
    (fits : phrase.Fits levels height) : phrase.tree.height ≤ max 1 height := by
  induction phrase generalizing levels height with
  | binding keyword name sign opens named assigns value valueLe =>
      have room := fits.2.2.pos (by simp)
      have bound := valueLe even fits.2.2
      simp only [tree, Expr.height_joinAssign]
      omega
  | plain sum sumLe => exact sumLe even fits
  | one operand operandLe => exact operandLe even fits
  | @more chain left op joins right _ rightLe =>
      have room := fits.2.pos chain.operand_ne_atom
      have before := even.1
      have bound := rightLe even.2 fits.2
      simp only [tree, Expr.height_joinBinary]
      omega
  | signed op signs operand operandLe =>
      have room := fits.2.2.pos (by simp)
      have bound := operandLe even fits.2.2
      simp only [tree, Expr.height_joinUnary]
      omega
  | bare atom atomLe =>
      have bound := atomLe even fits.2.2
      simp only [tree]
      omega
  | power base op raises exponent baseLe exponentLe =>
      have room := fits.2.2.2.pos (by simp)
      have baseBound := baseLe even.1 fits.2.2.1
      have exponentBound := exponentLe even.2 fits.2.2.2
      simp only [tree, Expr.height_joinBinary]
      omega
  | number literal numeric => exact Nat.le_max_left 1 height
  | access name named => exact Nat.le_max_left 1 height
  | brackets opening closing opens closes inner innerLe => exact innerLe even fits

end Phrase

/-!
### A highest tree

Tokens for which the bound is reached. Literals are added to both chains around
a factor until the height is used up, and the factor is a power of an expression
of the same make in brackets, one level further in.
-/

/-- The kinds of an operator and a literal, `count` times. -/
def links (op : Kind) (count : Nat) : List Kind :=
  (List.replicate count [op, .integer]).flatten

namespace Phrase

/-- A literal as an operand of a chain. -/
def literalOperand (literal : Token) (isInteger : literal.kind = .integer) :
    (chain : Chain) → Phrase chain.operand
  | .sum => .one (.bare (.number literal (.inl isInteger)))
  | .term => .bare (.number literal (.inl isInteger))

theorem tokens_literalOperand (literal : Token)
    (isInteger : literal.kind = .integer) (chain : Chain) :
    (literalOperand literal isInteger chain).tokens = [literal] := by
  cases chain <;> rfl

theorem height_literalOperand (literal : Token) (isInteger : literal.kind = .integer)
    (chain : Chain) : (literalOperand literal isInteger chain).tree.height = 1 := by
  cases chain <;> rfl

theorem fits_literalOperand (literal : Token)
    (isInteger : literal.kind = .integer) (chain : Chain) {levels height : Nat}
    (someLevels : 0 < levels) (someHeight : 0 < height) :
    (literalOperand literal isInteger chain).Fits levels height := by
  cases chain <;> exact ⟨someLevels, someHeight, trivial⟩

/-- Literals can be added to a chain as long as there is height, and each makes
    the tree one higher. -/
theorem exists_links (chain : Chain) {op : Kind}
    (joins : ∀ token, token.kind = op → chain.joins token = true)
    {levels height : Nat} :
    ∀ (count : Nat) (left : Phrase (.chain chain)) (tokens : List Token),
      tokens.map Token.kind = links op count → left.Fits levels height →
      left.operators + count < height →
      ∃ phrase : Phrase (.chain chain), phrase.tokens = left.tokens ++ tokens ∧
        phrase.tree.height = left.tree.height + count ∧ phrase.Fits levels height
  | 0, left, tokens, kinds, fits, _ => by
      have none : tokens = [] := by simpa [links] using kinds
      exact ⟨left, by simp [none], rfl, fits⟩
  | count + 1, left, tokens, kinds, fits, room => by
      have shape : tokens.map Token.kind = op :: .integer :: links op count := by
        simpa [links, List.replicate_succ] using kinds
      obtain ⟨operator, tokens, rfl, isOp, kinds⟩ := List.map_eq_cons_iff.mp shape
      obtain ⟨literal, rest, rfl, isInteger, restKinds⟩ :=
        List.map_eq_cons_iff.mp kinds
      have someLevels := (fits.pos (by simp)).1
      let longer := left.more operator (joins operator isOp)
        (literalOperand literal isInteger chain)
      have longerFits : longer.Fits levels height :=
        ⟨fits, fits_literalOperand literal isInteger chain someLevels (by omega)⟩
      have longerHeight : longer.tree.height = left.tree.height + 1 := by
        have positive := left.tree.height_pos
        simp only [longer, tree, Expr.height_joinBinary, height_literalOperand]
        omega
      have longerRoom : longer.operators + count < height := by
        simp only [longer, operators]
        omega
      obtain ⟨phrase, spelled, tall, phraseFits⟩ :=
        exists_links chain joins count longer rest restKinds longerFits longerRoom
      refine ⟨phrase, ?_, by omega, phraseFits⟩
      rw [spelled]
      simp [longer, Phrase.tokens, tokens_literalOperand]

/-- Around a factor both chains can be filled up with literals. -/
theorem exists_chains {levels height : Nat} {factor : Phrase .factor}
    (fits : factor.Fits levels height) {tokens : List Token}
    (kinds : tokens.map Token.kind =
      links .multiply (height - 1) ++ links .plus (height - 1)) :
    ∃ phrase : Phrase .expr, phrase.tokens = factor.tokens ++ tokens ∧
      phrase.tree.height = factor.tree.height + 2 * (height - 1) ∧
      phrase.Fits levels height := by
  have room := (fits.pos (by simp)).2
  have spare : 0 + (height - 1) < height := by omega
  obtain ⟨scalings, signs, rfl, scalingKinds, signKinds⟩ :=
    List.map_eq_append_iff.mp kinds
  obtain ⟨term, termSpelled, termHeight, termFits⟩ :=
    exists_links .term (fun token kind => by simp [Chain.joins, isScaling, kind])
      (height - 1) (.one factor) scalings scalingKinds fits spare
  obtain ⟨sum, sumSpelled, sumHeight, sumFits⟩ :=
    exists_links .sum (fun token kind => by simp [Chain.joins, isSign, kind])
      (height - 1) (.one term) signs signKinds termFits spare
  have sumSpelled : sum.tokens = term.tokens ++ signs := sumSpelled
  have termSpelled : term.tokens = factor.tokens ++ scalings := termSpelled
  have sumHeight : sum.tree.height = term.tree.height + (height - 1) := sumHeight
  have termHeight : term.tree.height = factor.tree.height + (height - 1) := termHeight
  refine ⟨.plain sum, ?_, ?_, sumFits⟩
  · rw [Phrase.tokens, sumSpelled, termSpelled, List.append_assoc]
  · rw [tree, sumHeight, termHeight]
    omega

end Phrase

/-- The kinds of the tokens of a highest tree: both chains filled up around a
    literal or, where a level is left, around a power of such an expression in
    brackets. -/
def tallKinds : (nested height : Nat) → List Kind
  | 0, height =>
      .integer :: (links .multiply (height - 1) ++ links .plus (height - 1))
  | nested + 1, height =>
      .leftParen :: (tallKinds nested (height - 1) ++
        .rightParen :: .power :: .integer ::
        (links .multiply (height - 1) ++ links .plus (height - 1)))

/-- Tokens of these kinds reach the bound. -/
theorem exists_tallest {nested height : Nat} (room : nested + 2 ≤ height)
    {tokens : List Token} (kinds : tokens.map Token.kind = tallKinds nested height) :
    ∃ phrase : Phrase .expr, phrase.tokens = tokens ∧
      phrase.tree.height = tallest (nested + 1) height ∧
      phrase.Fits (nested + 1) height := by
  induction nested generalizing height tokens with
  | zero =>
      obtain ⟨literal, rest, rfl, isInteger, kinds⟩ := List.map_eq_cons_iff.mp kinds
      let factor : Phrase .factor := .bare (.number literal (.inl isInteger))
      have fits : factor.Fits 1 height := ⟨Nat.one_pos, by omega, trivial⟩
      obtain ⟨phrase, spelled, tall, phraseFits⟩ := Phrase.exists_chains fits kinds
      refine ⟨phrase, spelled, ?_, phraseFits⟩
      rw [tall, tallest_eq Nat.one_pos (by omega)]
      simp [factor, Phrase.tree, Expr.height, tallest]
      omega
  | succ nested inside =>
      obtain ⟨opening, tokens, rfl, opens, kinds⟩ := List.map_eq_cons_iff.mp kinds
      obtain ⟨innerTokens, tokens, rfl, innerKinds, closingKinds⟩ :=
        List.map_eq_append_iff.mp kinds
      obtain ⟨closing, tokens, rfl, closes, powerKinds⟩ :=
        List.map_eq_cons_iff.mp closingKinds
      obtain ⟨op, tokens, rfl, isOp, exponentKinds⟩ :=
        List.map_eq_cons_iff.mp powerKinds
      obtain ⟨literal, rest, rfl, isInteger, linkKinds⟩ :=
        List.map_eq_cons_iff.mp exponentKinds
      obtain ⟨inner, rfl, innerTall, innerFits⟩ := inside (by omega) innerKinds
      have raises : isPower op = true := by simp [isPower, isOp]
      let factor : Phrase .factor :=
        .power (.brackets opening closing opens closes inner) op raises
          (.bare (.number literal (.inl isInteger)))
      have fits : factor.Fits (nested + 1 + 1) height :=
        ⟨Nat.succ_pos _, by omega, innerFits, Nat.succ_pos _, by omega, trivial⟩
      obtain ⟨phrase, spelled, tall, phraseFits⟩ := Phrase.exists_chains fits linkKinds
      refine ⟨phrase, by rw [spelled]; simp [factor, Phrase.tokens], ?_, phraseFits⟩
      have positive := inner.tree.height_pos
      have bound : tallest (nested + 1 + 1) height =
          tallest (nested + 1) (height - 1) + 2 * (height - 1) + 1 :=
        tallest_eq (Nat.succ_pos _) (by omega)
      simp only [factor, Phrase.tree, Expr.height_joinBinary, Expr.height] at tall
      omega

/-!
### A source for the tokens

Only the kinds of the tokens matter for the height, and each of these kinds is
written by one character. So a text with blanks between such characters has the
tokens that are wanted.
-/

/-- The character is a token of the kind wherever a blank follows it. -/
def Writes (c : Char) (kind : Kind) : Prop :=
  (∀ rest, splitPiece c (' ' :: rest) = ([c], ' ' :: rest)) ∧
    ∃ payload?, readPiece [c] = .token kind payload?

/-- Kinds that a character writes are the kinds of the tokens of some text. -/
theorem exists_text (kinds : List Kind)
    (writable : ∀ kind ∈ kinds, ∃ c, Writes c kind) :
    ∃ text, ∀ source position, ∃ tokens stop,
      placePieces source position (pieces text) =
        .ok (tokens ++ [{ kind := .endOfInput, span := .point stop source }]) ∧
      tokens.map Token.kind = kinds := by
  induction kinds with
  | nil =>
      exact ⟨[], fun source position => ⟨[], position, by simp [placePieces], rfl⟩⟩
  | cons kind kinds inductionHypothesis =>
      obtain ⟨c, split, payload?, means⟩ := writable kind (by simp)
      obtain ⟨text, written⟩ :=
        inductionHypothesis fun kind member => writable kind (by simp [member])
      refine ⟨c :: ' ' :: text, fun source position => ?_⟩
      have parts : pieces (c :: ' ' :: text) = [c] :: [' '] :: pieces text := by
        have blank : splitPiece ' ' text = ([' '], text) := rfl
        rw [pieces_cons, split, pieces_cons, blank]
      obtain ⟨tokens, stop, placed, kinds⟩ :=
        written source ((position.after [c]).after [' '])
      refine ⟨⟨kind, payload?, ⟨position, position.after [c], source⟩⟩ :: tokens,
        stop, ?_, by simp [kinds]⟩
      have skipped : readPiece [' '] = .skipped := rfl
      rw [parts, placePieces, means]
      simp only [placePieces, skipped, placed]
      rfl

theorem writes_integer : Writes '1' .integer :=
  ⟨fun _ => rfl, _, rfl⟩

theorem exists_writes_of_mem_links {op kind : Kind} {count : Nat}
    (opWritten : ∃ c, Writes c op) (member : kind ∈ links op count) :
    ∃ c, Writes c kind := by
  simp only [links, List.mem_flatten, List.mem_replicate] at member
  obtain ⟨link, ⟨_, rfl⟩, member⟩ := member
  simp only [List.mem_cons, List.not_mem_nil, or_false] at member
  rcases member with rfl | rfl
  · exact opWritten
  · exact ⟨'1', writes_integer⟩

theorem exists_writes_of_mem_chains {kind : Kind} {count : Nat}
    (member : kind ∈ links .multiply count ++ links .plus count) :
    ∃ c, Writes c kind := by
  rcases List.mem_append.mp member with member | member
  · exact exists_writes_of_mem_links ⟨'*', fun _ => rfl, _, rfl⟩ member
  · exact exists_writes_of_mem_links ⟨'+', fun _ => rfl, _, rfl⟩ member

theorem exists_writes_of_mem_tallKinds {nested height : Nat} {kind : Kind}
    (member : kind ∈ tallKinds nested height) : ∃ c, Writes c kind := by
  induction nested generalizing height with
  | zero =>
      rcases List.mem_cons.mp member with rfl | member
      · exact ⟨'1', writes_integer⟩
      · exact exists_writes_of_mem_chains member
  | succ nested inside =>
      rw [tallKinds, List.mem_cons, List.mem_append, List.mem_cons,
        List.mem_cons, List.mem_cons] at member
      rcases member with rfl | member | rfl | rfl | rfl | member
      · exact ⟨'(', fun _ => rfl, _, rfl⟩
      · exact inside member
      · exact ⟨')', fun _ => rfl, _, rfl⟩
      · exact ⟨'^', fun _ => rfl, _, rfl⟩
      · exact ⟨'1', writes_integer⟩
      · exact exists_writes_of_mem_chains member

/-!
### Accepted sources

The bound and the condition are about phrases; a source is accepted exactly if
its tokens are spelled by a phrase that fits, so they are about accepted sources
as well.
-/

/-- An accepted source has tokens, and these are spelled by a phrase within the
    limits. -/
theorem ofSource_eq_ok_iff {source : Source} {tree : Expr} :
    Expr.ofSource source = .ok tree ↔
      ∃ tokens, ∃ phrase : Phrase .expr, source.tokens = .ok tokens ∧
        phrase.tokens = Token.beforeEnd tokens ∧ phrase.tree = tree ∧
        phrase.Fits greatestNesting greatestHeight := by
  unfold Expr.ofSource
  cases tokenized : source.tokens with
  | error diagnostic => simp
  | ok tokens =>
      simp only [Except.ok.injEq, exists_and_left, exists_eq_left']
      rw [ofTokens_eq_ok_iff]

/-- A source that a phrase within the limits spells, with the end of the input
    behind it, is accepted. -/
theorem Phrase.ofSource_eq (phrase : Phrase .expr) {source : Source}
    {stop : Token} (tokenized : source.tokens = .ok (phrase.tokens ++ [stop]))
    (ends : stop.kind = .endOfInput)
    (fits : phrase.Fits greatestNesting greatestHeight) :
    Expr.ofSource source = .ok phrase.tree :=
  ofSource_eq_ok_iff.mpr
    ⟨_, phrase, tokenized, (phrase.beforeEnd_append ends []).symm, rfl, fits⟩

/-- The bound is reached by a source. -/
theorem exists_highest_source (nested : Nat) (nests : greatestNesting = nested + 1)
    (room : nested + 2 ≤ greatestHeight) :
    ∃ source tree, Expr.ofSource source = .ok tree ∧
      tree.height = tallest greatestNesting greatestHeight := by
  obtain ⟨text, written⟩ := exists_text (tallKinds nested greatestHeight)
    fun kind member => exists_writes_of_mem_tallKinds member
  let source : Source := { label := "", content := String.ofList text }
  obtain ⟨tokens, stop, placed, kinds⟩ := written source {}
  obtain ⟨phrase, rfl, height, fits⟩ := exists_tallest room kinds
  have tokenized : source.tokens =
      .ok (phrase.tokens ++ [{ kind := .endOfInput, span := .point stop source }]) := by
    have chars : source.chars = text := String.toList_ofList
    rw [Source.tokens, chars, placed]
  exact ⟨source, phrase.tree, phrase.ofSource_eq tokenized rfl (nests ▸ fits),
    nests ▸ height⟩

/-- What the limits on nesting and height do to the tree of a source. No
    accepted tree is higher than 190000. The limit on height bounds the tree
    exactly if the derivation of the source is within the limit also when the
    operators of a chain are counted from its other end, or does not even fit
    what the parser counts. An even derivation that fits is always within the
    limit. -/
theorem height_of_accepted_source (source : Source) :
    (∀ tree, Expr.ofSource source = .ok tree → tree.height ≤ 190000) ∧
      ((∀ tree, Expr.ofSource source = .ok tree → tree.height ≤ greatestHeight) ↔
        ∀ tokens, ∀ phrase : Phrase .expr, source.tokens = .ok tokens →
          phrase.tokens = Token.beforeEnd tokens →
          phrase.Fits greatestNesting greatestHeight →
          phrase.Within greatestHeight) ∧
      (∀ tokens, ∀ phrase : Phrase .expr, source.tokens = .ok tokens →
        phrase.tokens = Token.beforeEnd tokens → phrase.Even →
        ∀ tree, Expr.ofSource source = .ok tree → tree.height ≤ greatestHeight) := by
  have greatest : tallest greatestNesting greatestHeight = 190000 := rfl
  refine ⟨?_, ⟨?_, ?_⟩, ?_⟩
  · intro tree accepted
    obtain ⟨tokens, phrase, _, _, rfl, fits⟩ := ofSource_eq_ok_iff.mp accepted
    rw [← greatest]
    exact Phrase.height_le fits
  · intro bounded tokens phrase tokenized spelled fits
    have accepted : Expr.ofSource source = .ok phrase.tree :=
      ofSource_eq_ok_iff.mpr ⟨tokens, phrase, tokenized, spelled, rfl, fits⟩
    exact (phrase.within_iff greatestHeight).mpr (bounded phrase.tree accepted)
  · intro within tree accepted
    obtain ⟨tokens, phrase, tokenized, spelled, rfl, fits⟩ :=
      ofSource_eq_ok_iff.mp accepted
    exact (phrase.within_iff greatestHeight).mp
      (within tokens phrase tokenized spelled fits)
  · intro tokens phrase tokenized spelled even tree accepted
    obtain ⟨tokens', phrase', tokenized', spelled', rfl, fits⟩ :=
      ofSource_eq_ok_iff.mp accepted
    cases tokenized.symm.trans tokenized'
    have same : phrase' = phrase :=
      Phrase.tokens_injective (spelled'.trans spelled.symm)
    rw [same] at fits ⊢
    exact Phrase.height_le_of_even even fits

/-- The bound is attained, far above the limit on height. -/
theorem highest_accepted_source :
    ∃ source tree, Expr.ofSource source = .ok tree ∧ tree.height = 190000 := by
  have greatest : tallest greatestNesting greatestHeight = 190000 := rfl
  rw [← greatest]
  exact exists_highest_source 99 rfl (by decide)

end Grammar

end Abacus
