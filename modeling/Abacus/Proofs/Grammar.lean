/-
Module: Abacus.Proofs.Grammar
Purpose: The grammar of expressions, said without the parser:
    expr   := `let` name sign expr | sum
    sum    := term | sum ("+" | "-") term
    term   := factor | term ("*" | "/") factor
    factor := ("+" | "-") factor | atom | atom "^" factor
    atom   := integer | float | name | "(" expr ")"
  A phrase is a derivation. It keeps every token, brackets included, so both the
  tokens it spells and the tree it writes can be read off it. No two phrases
  spell the same tokens (`Phrase.tokens_injective`), which is what makes the
  grammar unambiguous: each level is closed off by the tokens that may not
  follow it.
Main exports: Grammar.Chain, Grammar.Level, Grammar.Level.Stops, Grammar.Phrase,
  Grammar.Phrase.tokens, Grammar.Phrase.tree, Grammar.Derives,
  Grammar.Phrase.tokens_injective, Grammar.Derives.unique
-/
import Abacus.Expr.Parser

namespace Abacus.Grammar

open Expr.Parser

/-!
### Levels

The productions of the grammar differ in what may follow them. `Level.Stops`
says where a level ends, by the next token alone; a chain ends where none of its
operators follows and its last operand ends.
-/

/-- The two levels of operators that group to the left. -/
inductive Chain where
  | sum
  | term
deriving DecidableEq, Repr, Inhabited

/-- The levels of the grammar, from the one that binds least. -/
inductive Level where
  | expr
  | chain (chain : Chain)
  | factor
  | atom
deriving DecidableEq, Repr, Inhabited

/-- What stands between the operators of a chain. -/
def Chain.operand : Chain → Level
  | .sum => .chain .term
  | .term => .factor

theorem Chain.operand_ne_atom (chain : Chain) : chain.operand ≠ .atom := by
  cases chain <;> simp [Chain.operand]

/-- The operators of a chain. -/
def Chain.joins : Chain → Token → Bool
  | .sum => isSign
  | .term => isScaling

/-- What stands between the operators of a level: for a chain its operands, else
    the level itself. -/
def Level.operand : Level → Level
  | .chain c => c.operand
  | level => level

/-- Whether a phrase of the level that is followed by the token goes on with it. -/
def Level.goesOn : Level → Token → Bool
  | .atom, _ => false
  | .factor, token => isPower token
  | .chain .term, token => isPower token || isScaling token
  | .chain .sum, token | .expr, token =>
      isPower token || isScaling token || isSign token

/-- Whether a phrase of the level ends where `rest` begins. -/
def Level.Stops (level : Level) (rest : List Token) : Prop :=
  ∀ token ∈ rest.head?, level.goesOn token = false

@[simp] theorem Level.stops_nil (level : Level) : level.Stops [] := by
  intro token member
  cases member

@[simp] theorem Level.stops_cons {level : Level} {token : Token} {rest : List Token} :
    level.Stops (token :: rest) ↔ level.goesOn token = false := by
  simp [Level.Stops]

theorem Level.stops_atom (rest : List Token) : Level.atom.Stops rest :=
  fun _ _ => rfl

theorem Chain.goesOn_eq (chain : Chain) (token : Token) :
    (Level.chain chain).goesOn token =
      (chain.operand.goesOn token || chain.joins token) := by
  cases chain <;> rfl

/-- Where a chain ends, its last operand ends. -/
theorem Chain.stops_operand (chain : Chain) {rest : List Token}
    (stops : (Level.chain chain).Stops rest) : chain.operand.Stops rest := by
  intro token member
  have closed := stops token member
  rw [chain.goesOn_eq, Bool.or_eq_false_iff] at closed
  exact closed.1

theorem Level.stops_operand (level : Level) {rest : List Token}
    (stops : level.Stops rest) : level.operand.Stops rest := by
  cases level with
  | chain chain => exact chain.stops_operand stops
  | expr => exact stops
  | factor => exact stops
  | atom => exact stops

/-- No operator of a chain could belong to the operand before it. -/
theorem Chain.operand_goesOn_of_joins {chain : Chain} {op : Token}
    (joins : chain.joins op = true) : chain.operand.goesOn op = false := by
  cases chain with
  | sum =>
      simp only [Chain.joins, isSign, Bool.or_eq_true, beq_iff_eq] at joins
      rcases joins with kind | kind
        <;> simp [Chain.operand, Level.goesOn, isPower, isScaling, kind]
  | term =>
      simp only [Chain.joins, isScaling, Bool.or_eq_true, beq_iff_eq] at joins
      rcases joins with kind | kind
        <;> simp [Chain.operand, Level.goesOn, isPower, kind]

theorem Chain.kind_ne_endOfInput (chain : Chain) {op : Token}
    (joins : chain.joins op = true) : op.kind ≠ .endOfInput := by
  intro ends
  cases chain <;> simp [Chain.joins, isSign, isScaling, ends] at joins

/-- Where a chain ends there is none of its operators. -/
theorem Chain.not_stops_of_joins {chain : Chain} {op : Token} {rest : List Token}
    (joins : chain.joins op = true) : ¬ (Level.chain chain).Stops (op :: rest) := by
  simp [chain.goesOn_eq, joins]

/-- A closing bracket ends every phrase inside. -/
theorem stops_rightParen {closing : Token} (closes : closing.kind = .rightParen)
    (rest : List Token) : Level.expr.Stops (closing :: rest) := by
  simp [Level.goesOn, isPower, isScaling, isSign, closes]

/-!
### Phrases

Derivations as data, one constructor for each production. The tokens that a
phrase spells and the tree that it writes are two readings of it, and neither is
used to define the other.
-/

/-- A derivation of the grammar. A chain that has one operand so far (`one`)
    takes further operators and operands on its right (`more`), so chains group
    to the left; the exponent of a power is a factor, so powers group to the
    right; and what a sign applies to is a factor, so it takes in a whole power. -/
inductive Phrase : Level → Type where
  | binding (keyword name sign : Token) (opens : keyword.isKeyword "let" = true)
      (named : name.kind = .identifier) (assigns : sign.kind = .assignment)
      (value : Phrase .expr) : Phrase .expr
  | plain (sum : Phrase (.chain .sum)) : Phrase .expr
  | one {chain : Chain} (operand : Phrase chain.operand) : Phrase (.chain chain)
  | more {chain : Chain} (left : Phrase (.chain chain)) (op : Token)
      (joins : chain.joins op = true) (right : Phrase chain.operand) :
      Phrase (.chain chain)
  | signed (op : Token) (signs : isSign op = true) (operand : Phrase .factor) :
      Phrase .factor
  | bare (atom : Phrase .atom) : Phrase .factor
  | power (base : Phrase .atom) (op : Token) (raises : isPower op = true)
      (exponent : Phrase .factor) : Phrase .factor
  | number (literal : Token)
      (numeric : literal.kind = .integer ∨ literal.kind = .float) : Phrase .atom
  | access (name : Token) (named : name.kind = .identifier) : Phrase .atom
  | brackets (opening closing : Token) (opens : opening.kind = .leftParen)
      (closes : closing.kind = .rightParen) (inner : Phrase .expr) : Phrase .atom

namespace Phrase

/-- The tokens that the phrase spells. -/
def tokens : {level : Level} → Phrase level → List Token
  | _, .binding keyword name sign _ _ _ value =>
      keyword :: name :: sign :: value.tokens
  | _, .plain sum => sum.tokens
  | _, .one operand => operand.tokens
  | _, .more left op _ right => left.tokens ++ op :: right.tokens
  | _, .signed op _ operand => op :: operand.tokens
  | _, .bare atom => atom.tokens
  | _, .power base op _ exponent => base.tokens ++ op :: exponent.tokens
  | _, .number literal _ => [literal]
  | _, .access name _ => [name]
  | _, .brackets opening closing _ _ inner => opening :: (inner.tokens ++ [closing])

/-- The tree that the phrase writes. -/
def tree : {level : Level} → Phrase level → Expr
  | _, .binding keyword name _ _ _ _ value => .joinAssign keyword name value.tree
  | _, .plain sum => sum.tree
  | _, .one operand => operand.tree
  | _, .more left op _ right => .joinBinary op left.tree right.tree
  | _, .signed op _ operand => .joinUnary op operand.tree
  | _, .bare atom => atom.tree
  | _, .power base op _ exponent => .joinBinary op base.tree exponent.tree
  | _, .number literal _ => .number literal
  | _, .access name _ => .access name
  | _, .brackets _ _ _ _ inner => inner.tree

/-- How many operators a chain has; none for a phrase that is no chain. -/
def operators : {level : Level} → Phrase level → Nat
  | _, .more left _ _ _ => left.operators + 1
  | _, _ => 0

/-- Every phrase begins with a token. A binding alone begins with the keyword,
    and no atom begins with a sign, so the first token tells the productions of
    a level apart. -/
theorem exists_head {level : Level} (phrase : Phrase level) :
    ∃ token rest, phrase.tokens = token :: rest ∧
      (level ≠ .expr → token.isKeyword "let" = false) ∧
      (level = .atom → isSign token = false) := by
  induction phrase with
  | binding keyword name sign opens named assigns value _ =>
      exact ⟨keyword, _, rfl, by simp, by simp⟩
  | plain sum sumHead =>
      obtain ⟨token, rest, spelled, _, _⟩ := sumHead
      exact ⟨token, rest, spelled, by simp, by simp⟩
  | @one chain operand operandHead =>
      obtain ⟨token, rest, spelled, plain, _⟩ := operandHead
      refine ⟨token, rest, spelled, fun _ => plain ?_, by simp⟩
      cases chain <;> simp [Chain.operand]
  | more left op joins right leftHead _ =>
      obtain ⟨token, rest, spelled, plain, _⟩ := leftHead
      exact ⟨token, rest ++ op :: right.tokens, by simp [tokens, spelled],
        fun _ => plain (by simp), by simp⟩
  | signed op signs operand _ =>
      refine ⟨op, _, rfl, fun _ => ?_, by simp⟩
      simp only [isSign, Bool.or_eq_true, beq_iff_eq] at signs
      rcases signs with kind | kind <;> simp [Token.isKeyword, kind]
  | bare atom atomHead =>
      obtain ⟨token, rest, spelled, plain, _⟩ := atomHead
      exact ⟨token, rest, spelled, fun _ => plain (by simp), by simp⟩
  | power base op raises exponent baseHead _ =>
      obtain ⟨token, rest, spelled, plain, _⟩ := baseHead
      exact ⟨token, rest ++ op :: exponent.tokens, by simp [tokens, spelled],
        fun _ => plain (by simp), by simp⟩
  | number literal numeric =>
      refine ⟨literal, [], rfl, fun _ => ?_, fun _ => ?_⟩ <;>
        rcases numeric with kind | kind <;> simp [Token.isKeyword, isSign, kind]
  | access name named =>
      exact ⟨name, [], rfl, by simp [Token.isKeyword, named], by simp [isSign, named]⟩
  | brackets opening closing opens closes inner _ =>
      exact ⟨opening, _, rfl, by simp [Token.isKeyword, opens], by simp [isSign, opens]⟩

/-!
### Unambiguity

Two phrases of one level that spell the same tokens up to places where the level
stops are the same. For chains the induction needs more, because their phrases
nest on the left: what it compares are chains with as many operators each, cut
off where an operand stops; and if one of two chains has fewer operators, the
place where it is cut off is no end of a chain.
-/

/-- How the phrase compares with any other phrase of its level that spells the
    same tokens. -/
def Comparable {level : Level} (p : Phrase level) : Prop :=
  ∀ (q : Phrase level) (r s : List Token), p.tokens ++ r = q.tokens ++ s →
    level.operand.Stops r → level.operand.Stops s →
    (p.operators = q.operators → p = q ∧ r = s) ∧
      (p.operators < q.operators → ¬ level.Stops r) ∧
      (q.operators < p.operators → ¬ level.Stops s)

/-- Phrases that end where their level stops are equal if they spell the same
    tokens. -/
theorem Comparable.eq {level : Level} {p q : Phrase level} (comparable : p.Comparable)
    {r s : List Token} (same : p.tokens ++ r = q.tokens ++ s)
    (stopsR : level.Stops r) (stopsS : level.Stops s) : p = q ∧ r = s := by
  obtain ⟨equal, fewer, more⟩ :=
    comparable q r s same (level.stops_operand stopsR) (level.stops_operand stopsS)
  rcases Nat.lt_trichotomy p.operators q.operators with less | count | greater
  · exact absurd stopsR (fewer less)
  · exact equal count
  · exact absurd stopsS (more greater)

/-- Outside of chains there are no operators to count. -/
theorem operators_eq_zero {level : Level} (single : level.operand = level)
    (p : Phrase level) : p.operators = 0 := by
  cases p with
  | @more chain left op joins right => cases chain <;> cases single
  | _ => rfl

/-- Outside of chains it is enough to compare phrases that end where their level
    stops. -/
theorem comparable_of_eq {level : Level} {p : Phrase level}
    (single : level.operand = level)
    (equal : ∀ (q : Phrase level) (r s : List Token), p.tokens ++ r = q.tokens ++ s →
      level.Stops r → level.Stops s → p = q ∧ r = s) : p.Comparable := by
  intro q r s same stopsR stopsS
  rw [single] at stopsR stopsS
  rw [operators_eq_zero single p, operators_eq_zero single q]
  exact ⟨fun _ => equal q r s same stopsR stopsS, by simp, by simp⟩

theorem tokens_more_append {chain : Chain} (left : Phrase (.chain chain))
    (op : Token) (joins : chain.joins op = true) (right : Phrase chain.operand)
    (r : List Token) :
    (left.more op joins right).tokens ++ r =
      left.tokens ++ op :: (right.tokens ++ r) := by
  simp [tokens]

theorem tokens_power_append (base : Phrase .atom) (op : Token)
    (raises : isPower op = true) (exponent : Phrase .factor) (r : List Token) :
    (base.power op raises exponent).tokens ++ r =
      base.tokens ++ op :: (exponent.tokens ++ r) := by
  simp [tokens]

/-- A chain that is the beginning of a longer one is followed by an operator. -/
theorem not_stops_of_fewer {chain : Chain} {p : Phrase (.chain chain)}
    {r : List Token} (stopsR : chain.operand.Stops r)
    (equal : ∀ (q : Phrase (.chain chain)) (s : List Token),
      p.tokens ++ r = q.tokens ++ s →
      chain.operand.Stops s → p.operators = q.operators → r = s) :
    ∀ (q : Phrase (.chain chain)) (s : List Token), p.tokens ++ r = q.tokens ++ s →
      chain.operand.Stops s → p.operators < q.operators → ¬ (Level.chain chain).Stops r
  | .one _, _, _, _, fewer => absurd fewer (Nat.not_lt_zero _)
  | .more left op joins right, s, same, _, fewer => by
      have leftStops : chain.operand.Stops (op :: (right.tokens ++ s)) :=
        Level.stops_cons.mpr (Chain.operand_goesOn_of_joins joins)
      have leftSame : p.tokens ++ r = left.tokens ++ op :: (right.tokens ++ s) := by
        rw [same, tokens_more_append]
      rcases Nat.lt_or_eq_of_le (Nat.le_of_lt_succ fewer) with less | count
      · exact not_stops_of_fewer stopsR equal left _ leftSame leftStops less
      · rw [equal left _ leftSame leftStops count]
        exact Chain.not_stops_of_joins joins

/-- What begins with a sign is no atom. -/
theorem signed_ne_atom {op : Token} (signs : isSign op = true) (atom : Phrase .atom)
    {rest r : List Token} : op :: rest ≠ atom.tokens ++ r := by
  obtain ⟨token, tail, spelled, _, unsigned⟩ := atom.exists_head
  rw [spelled, List.cons_append]
  intro same
  injection same with head
  rw [head, unsigned rfl] at signs
  contradiction

/-- What begins with the keyword is no sum. -/
theorem binding_ne_sum {keyword : Token} (opens : keyword.isKeyword "let" = true)
    (sum : Phrase (.chain .sum)) {rest r : List Token} :
    keyword :: rest ≠ sum.tokens ++ r := by
  obtain ⟨token, tail, spelled, plain, _⟩ := sum.exists_head
  rw [spelled, List.cons_append]
  intro same
  injection same with head
  rw [head, plain (by simp)] at opens
  contradiction

theorem comparable_binding {keyword name sign : Token}
    (opens : keyword.isKeyword "let" = true) (named : name.kind = .identifier)
    (assigns : sign.kind = .assignment) {value : Phrase .expr}
    (valueComparable : value.Comparable) :
    (binding keyword name sign opens named assigns value).Comparable := by
  apply comparable_of_eq rfl
  intro q r s same stopsR stopsS
  cases q with
  | binding keyword' name' sign' opens' named' assigns' value' =>
      simp only [tokens, List.cons_append, List.cons.injEq] at same
      obtain ⟨rfl, rfl, rfl, same⟩ := same
      obtain ⟨rfl, rfl⟩ := valueComparable.eq same stopsR stopsS
      exact ⟨rfl, rfl⟩
  | plain sum => exact absurd same (binding_ne_sum opens sum)

theorem comparable_plain {sum : Phrase (.chain .sum)}
    (sumComparable : sum.Comparable) : (plain sum).Comparable := by
  apply comparable_of_eq rfl
  intro q r s same stopsR stopsS
  cases q with
  | binding keyword name sign opens named assigns value =>
      exact absurd same.symm (binding_ne_sum opens sum)
  | plain sum' =>
      obtain ⟨rfl, rfl⟩ := sumComparable.eq same stopsR stopsS
      exact ⟨rfl, rfl⟩

theorem comparable_one {chain : Chain} {operand : Phrase chain.operand}
    (operandComparable : operand.Comparable) : (one operand).Comparable := by
  intro q r s same stopsR stopsS
  have equal : ∀ (q : Phrase (.chain chain)) (s : List Token),
      (one operand).tokens ++ r = q.tokens ++ s →
      chain.operand.Stops s → (one operand).operators = q.operators →
      one operand = q ∧ r = s := by
    intro q s same stopsS count
    cases q with
    | one operand' =>
        obtain ⟨rfl, rfl⟩ := operandComparable.eq same stopsR stopsS
        exact ⟨rfl, rfl⟩
    | more left op joins right => cases count
  refine ⟨equal q s same stopsS, ?_, fun fewer => absurd fewer (Nat.not_lt_zero _)⟩
  exact not_stops_of_fewer stopsR
    (fun q s same stopsS count => (equal q s same stopsS count).2)
    q s same stopsS

theorem comparable_more {chain : Chain} {left : Phrase (.chain chain)}
    {op : Token} (joins : chain.joins op = true) {right : Phrase chain.operand}
    (leftComparable : left.Comparable) (rightComparable : right.Comparable) :
    (left.more op joins right).Comparable := by
  intro q r s same stopsR stopsS
  have leftStops : chain.operand.Stops (op :: (right.tokens ++ r)) :=
    Level.stops_cons.mpr (Chain.operand_goesOn_of_joins joins)
  have equal : ∀ (q : Phrase (.chain chain)) (s : List Token),
      (left.more op joins right).tokens ++ r = q.tokens ++ s → chain.operand.Stops s →
      (left.more op joins right).operators = q.operators →
      left.more op joins right = q ∧ r = s := by
    intro q s same stopsS count
    cases q with
    | one operand => cases count
    | more left' op' joins' right' =>
        rw [tokens_more_append, tokens_more_append] at same
        have leftStops' : chain.operand.Stops (op' :: (right'.tokens ++ s)) :=
          Level.stops_cons.mpr (Chain.operand_goesOn_of_joins joins')
        obtain ⟨rfl, rightSame⟩ :=
          (leftComparable left' _ _ same leftStops leftStops').1 (Nat.succ.inj count)
        injection rightSame with sameOp rightSame
        subst sameOp
        obtain ⟨rfl, rfl⟩ := rightComparable.eq rightSame stopsR stopsS
        exact ⟨rfl, rfl⟩
  refine ⟨equal q s same stopsS, ?_, ?_⟩
  · exact not_stops_of_fewer stopsR
      (fun q s same stopsS count => (equal q s same stopsS count).2)
      q s same stopsS
  · -- The other chain has at most the operators of the left part, so that is
    -- what it is compared with.
    intro fewer
    rw [tokens_more_append] at same
    obtain ⟨sameCount, _, longer⟩ := leftComparable q _ s same leftStops stopsS
    rcases Nat.lt_or_eq_of_le (Nat.le_of_lt_succ fewer) with less | count
    · exact longer less
    · rw [← (sameCount count.symm).2]
      exact Chain.not_stops_of_joins joins

theorem comparable_signed {op : Token} (signs : isSign op = true)
    {operand : Phrase .factor} (operandComparable : operand.Comparable) :
    (signed op signs operand).Comparable := by
  apply comparable_of_eq rfl
  intro q r s same stopsR stopsS
  cases q with
  | signed op' signs' operand' =>
      injection same with sameOp same
      subst sameOp
      obtain ⟨rfl, rfl⟩ := operandComparable.eq same stopsR stopsS
      exact ⟨rfl, rfl⟩
  | bare atom => exact absurd same (signed_ne_atom signs atom)
  | power base op' raises exponent =>
      rw [tokens_power_append] at same
      exact absurd same (signed_ne_atom signs base)

/-- A factor does not end before the operator of a power. -/
theorem not_stops_of_raises {op : Token} (raises : isPower op = true)
    (rest : List Token) : ¬ Level.factor.Stops (op :: rest) := by
  rw [Level.stops_cons, Level.goesOn, raises]
  decide

theorem comparable_bare {atom : Phrase .atom} (atomComparable : atom.Comparable) :
    (bare atom).Comparable := by
  apply comparable_of_eq rfl
  intro q r s same stopsR stopsS
  cases q with
  | signed op signs operand => exact absurd same.symm (signed_ne_atom signs atom)
  | bare atom' =>
      obtain ⟨rfl, rfl⟩ :=
        atomComparable.eq same (Level.stops_atom r) (Level.stops_atom s)
      exact ⟨rfl, rfl⟩
  | power base op raises exponent =>
      rw [tokens_power_append] at same
      obtain ⟨_, rfl⟩ :=
        atomComparable.eq same (Level.stops_atom _) (Level.stops_atom _)
      exact absurd stopsR (not_stops_of_raises raises _)

theorem comparable_power {base : Phrase .atom} {op : Token}
    (raises : isPower op = true) {exponent : Phrase .factor}
    (baseComparable : base.Comparable) (exponentComparable : exponent.Comparable) :
    (base.power op raises exponent).Comparable := by
  apply comparable_of_eq rfl
  intro q r s same stopsR stopsS
  rw [tokens_power_append] at same
  cases q with
  | signed op' signs operand => exact absurd same.symm (signed_ne_atom signs base)
  | bare atom =>
      obtain ⟨_, rfl⟩ :=
        baseComparable.eq same (Level.stops_atom _) (Level.stops_atom _)
      exact absurd stopsS (not_stops_of_raises raises _)
  | power base' op' raises' exponent' =>
      rw [tokens_power_append] at same
      obtain ⟨rfl, exponentSame⟩ :=
        baseComparable.eq same (Level.stops_atom _) (Level.stops_atom _)
      injection exponentSame with sameOp exponentSame
      subst sameOp
      obtain ⟨rfl, rfl⟩ := exponentComparable.eq exponentSame stopsR stopsS
      exact ⟨rfl, rfl⟩

theorem comparable_number {literal : Token}
    (numeric : literal.kind = .integer ∨ literal.kind = .float) :
    (number literal numeric).Comparable := by
  apply comparable_of_eq rfl
  intro q r s same _ _
  cases q with
  | number literal' numeric' =>
      injection same with head tail
      subst head
      exact ⟨rfl, tail⟩
  | access name named =>
      injection same with head
      rw [head, named] at numeric
      simp at numeric
  | brackets opening closing opens closes inner =>
      injection same with head
      rw [head, opens] at numeric
      simp at numeric

theorem comparable_access {name : Token} (named : name.kind = .identifier) :
    (access name named).Comparable := by
  apply comparable_of_eq rfl
  intro q r s same _ _
  cases q with
  | number literal numeric =>
      injection same with head
      rw [← head, named] at numeric
      simp at numeric
  | access name' named' =>
      injection same with head tail
      subst head
      exact ⟨rfl, tail⟩
  | brackets opening closing opens closes inner =>
      injection same with head
      rw [head, opens] at named
      cases named

theorem comparable_brackets {opening closing : Token}
    (opens : opening.kind = .leftParen) (closes : closing.kind = .rightParen)
    {inner : Phrase .expr} (innerComparable : inner.Comparable) :
    (brackets opening closing opens closes inner).Comparable := by
  apply comparable_of_eq rfl
  intro q r s same _ _
  cases q with
  | number literal numeric =>
      injection same with head
      rw [← head, opens] at numeric
      simp at numeric
  | access name named =>
      injection same with head
      rw [← head, opens] at named
      cases named
  | brackets opening' closing' opens' closes' inner' =>
      injection same with head innerSame
      subst head
      have innerSame :
          inner.tokens ++ closing :: r = inner'.tokens ++ closing' :: s := by
        simpa [tokens] using innerSame
      obtain ⟨rfl, closingSame⟩ :=
        innerComparable.eq innerSame (stops_rightParen closes r)
          (stops_rightParen closes' s)
      injection closingSame with sameClosing tail
      subst sameClosing
      exact ⟨rfl, tail⟩

/-- Every phrase compares with every other one of its level. -/
theorem comparable {level : Level} (p : Phrase level) : p.Comparable := by
  induction p with
  | binding keyword name sign opens named assigns value valueComparable =>
      exact comparable_binding opens named assigns valueComparable
  | plain sum sumComparable => exact comparable_plain sumComparable
  | one operand operandComparable => exact comparable_one operandComparable
  | more left op joins right leftComparable rightComparable =>
      exact comparable_more joins leftComparable rightComparable
  | signed op signs operand operandComparable =>
      exact comparable_signed signs operandComparable
  | bare atom atomComparable => exact comparable_bare atomComparable
  | power base op raises exponent baseComparable exponentComparable =>
      exact comparable_power raises baseComparable exponentComparable
  | number literal numeric => exact comparable_number numeric
  | access name named => exact comparable_access named
  | brackets opening closing opens closes inner innerComparable =>
      exact comparable_brackets opens closes innerComparable

/-- No two derivations spell the same tokens. -/
theorem tokens_injective {level : Level} : Function.Injective (@tokens level) := by
  intro p q same
  have same : p.tokens ++ [] = q.tokens ++ [] := by
    rw [List.append_nil, List.append_nil, same]
  exact (p.comparable.eq same level.stops_nil level.stops_nil).1

/-- The end of the input is part of no phrase. -/
theorem kind_ne_endOfInput {level : Level} {phrase : Phrase level} {token : Token}
    (member : token ∈ phrase.tokens) : token.kind ≠ .endOfInput := by
  induction phrase with
  | binding keyword name sign opens named assigns value valueOther =>
      simp only [Token.isKeyword, Bool.and_eq_true, beq_iff_eq] at opens
      simp only [tokens, List.mem_cons] at member
      rcases member with rfl | rfl | rfl | member
      · simp [opens.1]
      · simp [named]
      · simp [assigns]
      · exact valueOther member
  | plain sum sumOther => exact sumOther member
  | one operand operandOther => exact operandOther member
  | @more chain left op joins right leftOther rightOther =>
      simp only [tokens, List.mem_append, List.mem_cons] at member
      rcases member with member | rfl | member
      · exact leftOther member
      · exact chain.kind_ne_endOfInput joins
      · exact rightOther member
  | signed op signs operand operandOther =>
      simp only [tokens, List.mem_cons] at member
      rcases member with rfl | member
      · exact Chain.sum.kind_ne_endOfInput signs
      · exact operandOther member
  | bare atom atomOther => exact atomOther member
  | power base op raises exponent baseOther exponentOther =>
      simp only [isPower, beq_iff_eq] at raises
      simp only [tokens, List.mem_append, List.mem_cons] at member
      rcases member with member | rfl | member
      · exact baseOther member
      · simp [raises]
      · exact exponentOther member
  | number literal numeric =>
      simp only [tokens, List.mem_singleton] at member
      subst member
      rcases numeric with kind | kind <;> simp [kind]
  | access name named =>
      simp only [tokens, List.mem_singleton] at member
      subst member
      simp [named]
  | brackets opening closing opens closes inner innerOther =>
      simp only [tokens, List.mem_cons, List.mem_append, List.not_mem_nil, or_false]
        at member
      rcases member with rfl | member | rfl
      · simp [opens]
      · exact innerOther member
      · simp [closes]

/-- A phrase with the end of the input after it is what is parsed. -/
theorem beforeEnd_append (phrase : Phrase .expr) {stop : Token}
    (ends : stop.kind = .endOfInput) (rest : List Token) :
    Token.beforeEnd (phrase.tokens ++ stop :: rest) = phrase.tokens := by
  have others : ∀ token ∈ phrase.tokens, (token.kind != .endOfInput) = true :=
    fun token member => bne_iff_ne.mpr (kind_ne_endOfInput member)
  rw [Token.beforeEnd, List.takeWhile_append_of_pos others,
    List.takeWhile_cons_of_neg (by simp [ends]), List.append_nil]

end Phrase

/-- The tokens can be derived at the level, and the derivation writes the tree. -/
def Derives (level : Level) (tokens : List Token) (tree : Expr) : Prop :=
  ∃ phrase : Phrase level, phrase.tokens = tokens ∧ phrase.tree = tree

/-- A list of tokens has at most one tree. -/
theorem Derives.unique {level : Level} {tokens : List Token} {tree tree' : Expr}
    (derived : Derives level tokens tree)
    (derived' : Derives level tokens tree') : tree = tree' := by
  obtain ⟨p, spelledP, rfl⟩ := derived
  obtain ⟨q, spelledQ, rfl⟩ := derived'
  rw [Phrase.tokens_injective (spelledP.trans spelledQ.symm)]

end Abacus.Grammar
