/-
Module: Abacus.Proofs.Limits
Purpose: What exactly the limits on nesting and height allow, said of a
  derivation without the parser. Every factor and every value of a binding is an
  entry. What stands around an entry is the list of the entries it is in, itself
  included, and of the chains it is an operand in, each with how many of its
  operators come before it. Tokens that have a derivation are accepted exactly
  if no entry is in too many entries and none is too far down, and they are
  rejected for no other reason (`nesting_limits_are_exact`).
Main exports: Grammar.Enclosure, Grammar.Enclosure.nesting,
  Grammar.Enclosure.height, Grammar.Phrase.entries, Grammar.Phrase.fits_iff,
  Grammar.nesting_limits_are_exact
-/
import Abacus.Proofs.ParserAgreement

namespace Abacus.Grammar

open Expr.Parser

/-!
### Entries

The budgets of the parser go down on the way in, while an enclosure counts up
what is around a place. `Phrase.fits_iff` says that the two counts come to the
same: the phrase fits exactly if what is around each of its entries is within
the limits. By induction on the phrase, with what each constructor takes from
the budgets inside it.
-/

/-- What stands around a place in a derivation: an entry, or a chain of which
    `before` operators stand on the left of the place. -/
inductive Enclosure where
  | entry
  | chain (before : Nat)
deriving DecidableEq, Repr, Inhabited

namespace Enclosure

/-- How many of the enclosures are entries. -/
def nesting : List Enclosure → Nat
  | [] => 0
  | .entry :: around => nesting around + 1
  | .chain _ :: around => nesting around

/-- How many operators of the enclosing chains stand on the left. -/
def operators : List Enclosure → Nat
  | [] => 0
  | .entry :: around => operators around
  | .chain before :: around => before + operators around

/-- The entries and the operators together. -/
def height (around : List Enclosure) : Nat :=
  nesting around + operators around

/-- Whether the enclosures are within the limits. -/
def Within (levels height : Nat) (around : List Enclosure) : Prop :=
  nesting around ≤ levels ∧ Enclosure.height around ≤ height

instance (levels height : Nat) (around : List Enclosure) :
    Decidable (Within levels height around) :=
  inferInstanceAs (Decidable (_ ∧ _))

/-- An entry by itself takes one level and one unit of height. -/
theorem within_entry {levels height : Nat} :
    Within levels height [.entry] ↔ 0 < levels ∧ 0 < height := by
  simp [Within, Enclosure.height, nesting, operators, Nat.succ_le_iff]

/-- An enclosing entry takes one level and one unit of height from what is
    inside. -/
theorem within_entry_cons {levels height : Nat} {around : List Enclosure}
    (someLevels : 0 < levels) (someHeight : 0 < height) :
    Within levels height (.entry :: around) ↔
      Within (levels - 1) (height - 1) around := by
  simp only [Within, Enclosure.height, nesting, operators]
  omega

/-- The operators on the left take height from what is inside an entry after
    them. -/
theorem within_chain_cons {levels height before : Nat} {around : List Enclosure}
    (entered : 0 < nesting around) :
    Within levels height (.chain before :: around) ↔
      Within levels (height - before) around := by
  simp only [Within, Enclosure.height, nesting, operators]
  omega

end Enclosure

open Enclosure

namespace Phrase

/-- The entries of the phrase in order, each given by what stands around it from
    the outside in. The last of these is the entry itself. -/
def entries : {level : Level} → Phrase level → List (List Enclosure)
  | _, .binding _ _ _ _ _ _ value => [.entry] :: value.entries.map (.entry :: ·)
  | _, .plain sum => sum.entries
  | _, .one operand => operand.entries.map (.chain 0 :: ·)
  | _, .more left _ _ right =>
      left.entries ++ right.entries.map (.chain (left.operators + 1) :: ·)
  | _, .signed _ _ operand => [.entry] :: operand.entries.map (.entry :: ·)
  | _, .bare atom => [.entry] :: atom.entries.map (.entry :: ·)
  | _, .power base _ _ exponent =>
      [.entry] :: (base.entries.map (.chain 0 :: ·) ++
          exponent.entries.map (.chain 1 :: ·)).map (.entry :: ·)
  | _, .number _ _ => []
  | _, .access _ _ => []
  | _, .brackets _ _ _ _ inner => inner.entries

theorem nesting_pos_of_entry (inside : List (List Enclosure)) :
    ∀ around ∈ [.entry] :: inside.map (.entry :: ·), 0 < nesting around := by
  rw [List.forall_mem_cons, List.forall_mem_map]
  exact ⟨Nat.one_pos, fun around _ => Nat.succ_pos _⟩

/-- An entry is in itself. -/
theorem nesting_pos {level : Level} (phrase : Phrase level) :
    ∀ around ∈ phrase.entries, 0 < nesting around := by
  induction phrase with
  | binding keyword name sign opens named assigns value _ =>
      exact nesting_pos_of_entry _
  | plain sum sumPos => exact sumPos
  | one operand operandPos => simpa [entries, nesting] using operandPos
  | more left op joins right leftPos rightPos =>
      simp only [entries, List.forall_mem_append, List.forall_mem_map, nesting]
      exact ⟨leftPos, rightPos⟩
  | signed op signs operand _ => exact nesting_pos_of_entry _
  | bare atom _ => exact nesting_pos_of_entry _
  | power base op raises exponent _ _ => exact nesting_pos_of_entry _
  | number literal numeric => simp [entries]
  | access name named => simp [entries]
  | brackets opening closing opens closes inner innerPos => exact innerPos

/-- Whether every entry is within the limits. -/
def EntriesWithin {level : Level} (phrase : Phrase level) (levels height : Nat) :
    Prop :=
  ∀ around ∈ phrase.entries, Within levels height around

/-- An entry and what is inside of it are within the limits if there is room for
    the entry and the inside is within what is left. -/
theorem forall_within_entry {levels height : Nat} (inside : List (List Enclosure)) :
    (∀ around ∈ [.entry] :: inside.map (.entry :: ·), Within levels height around) ↔
      0 < levels ∧ 0 < height ∧
        ∀ around ∈ inside, Within (levels - 1) (height - 1) around := by
  rw [List.forall_mem_cons, List.forall_mem_map, within_entry, and_assoc]
  refine and_congr_right fun someLevels => and_congr_right fun someHeight => ?_
  exact forall₂_congr fun around _ => within_entry_cons someLevels someHeight

/-- The entries of an operand are within the limits if they are within what its
    operators leave. -/
theorem forall_within_chain {level : Level} (operand : Phrase level)
    (levels height before : Nat) :
    (∀ around ∈ operand.entries.map (.chain before :: ·), Within levels height around) ↔
      operand.EntriesWithin levels (height - before) := by
  rw [List.forall_mem_map]
  exact forall₂_congr fun around member =>
    within_chain_cons (operand.nesting_pos around member)

/-- A phrase is within the budgets of the parser exactly if all its entries are. -/
theorem fits_iff {level : Level} (phrase : Phrase level) (levels height : Nat) :
    phrase.Fits levels height ↔ phrase.EntriesWithin levels height := by
  induction phrase generalizing levels height with
  | binding keyword name sign opens named assigns value valueFits =>
      rw [Fits, EntriesWithin, entries, forall_within_entry, valueFits]
      rfl
  | plain sum sumFits => exact sumFits levels height
  | one operand operandFits =>
      rw [Fits, EntriesWithin, entries, forall_within_chain, operandFits, Nat.sub_zero]
  | more left op joins right leftFits rightFits =>
      rw [Fits, EntriesWithin, entries, List.forall_mem_append,
        forall_within_chain, leftFits, rightFits]
      rfl
  | signed op signs operand operandFits =>
      rw [Fits, EntriesWithin, entries, forall_within_entry, operandFits]
      rfl
  | bare atom atomFits =>
      rw [Fits, EntriesWithin, entries, forall_within_entry, atomFits]
      rfl
  | power base op raises exponent baseFits exponentFits =>
      rw [Fits, EntriesWithin, entries, forall_within_entry,
        List.forall_mem_append, forall_within_chain,
        forall_within_chain, baseFits, exponentFits, Nat.sub_zero]
  | number literal numeric => simp [Fits, EntriesWithin, entries]
  | access name named => simp [Fits, EntriesWithin, entries]
  | brackets opening closing opens closes inner innerFits =>
      exact innerFits levels height

end Phrase

/-!
### Main statement

The parser accepts the tokens of a phrase exactly if it fits, so the enclosures
decide it. What is refused is a derivation all the same, hence the fault is the
limit and no other.
-/

/-- The limits are exact. Tokens that a phrase spells up to the end of the input
    are accepted if every entry is in at most a hundred entries, itself
    included, and if there are at most a thousand of these and of the operators
    on its left in the chains around it; and if they are not accepted, they are
    rejected as too deep. -/
theorem nesting_limits_are_exact {tokens : List Token} {phrase : Phrase .expr}
    (spelled : phrase.tokens = Token.beforeEnd tokens) :
    ((∃ tree, Expr.ofTokens tokens = .ok tree) ↔
        ∀ around ∈ phrase.entries, nesting around ≤ 100 ∧ height around ≤ 1000) ∧
      ((¬ ∀ around ∈ phrase.entries, nesting around ≤ 100 ∧ height around ≤ 1000) →
        ∃ diagnostic, Expr.ofTokens tokens = .error diagnostic ∧
          diagnostic.kindName = "Syntax Error" ∧
          diagnostic.message = "expression nested too deeply") := by
  have limits : phrase.Fits greatestNesting greatestHeight ↔
      ∀ around ∈ phrase.entries, nesting around ≤ 100 ∧ height around ≤ 1000 :=
    phrase.fits_iff _ _
  rw [← limits]
  refine ⟨⟨?_, ?_⟩, ?_⟩
  · rintro ⟨tree, accepted⟩
    obtain ⟨other, otherSpelled, _, fits⟩ := ofTokens_eq_ok_iff.mp accepted
    rwa [Phrase.tokens_injective (otherSpelled.trans spelled.symm)] at fits
  · intro fits
    exact ⟨phrase.tree, ofTokens_eq_ok_iff.mpr ⟨phrase, spelled, rfl, fits⟩⟩
  · intro unfit
    obtain ⟨span, rejected⟩ := ofTokens_of_not_fits spelled unfit
    exact ⟨_, rejected, rfl, rfl⟩

/-- A number under so many signs. -/
def signedNumber : Nat → Phrase .factor
  | 0 =>
      .bare (.number
        { kind := .integer, span := .point {} { label := "<test>", content := "" } }
        (.inl rfl))
  | count + 1 =>
      .signed { kind := .minus, span := .point {} { label := "<test>", content := "" } }
        rfl (signedNumber count)

/-- Under ninety-nine signs a number is in a hundred entries, and one sign more
    is too many. -/
theorem nesting_limits_are_exact_of_signs :
    let phrase (count : Nat) : Phrase .expr :=
      .plain (.one (.one (signedNumber count)))
    (phrase 99).tokens = Token.beforeEnd (phrase 99).tokens ∧
      (∃ tree, Expr.ofTokens (phrase 99).tokens = .ok tree) ∧
      (phrase 100).tokens = Token.beforeEnd (phrase 100).tokens ∧
      ∃ diagnostic, Expr.ofTokens (phrase 100).tokens = .error diagnostic ∧
        diagnostic.message = "expression nested too deeply" := by
  intro phrase
  have spelled : (phrase 99).tokens = Token.beforeEnd (phrase 99).tokens := by
    decide +kernel
  have spelledAbove :
      (phrase 100).tokens = Token.beforeEnd (phrase 100).tokens := by decide +kernel
  obtain ⟨diagnostic, rejected, _, message⟩ :=
    (nesting_limits_are_exact spelledAbove).2 (by decide +kernel)
  exact ⟨spelled, (nesting_limits_are_exact spelled).1.mpr (by decide +kernel),
    spelledAbove, diagnostic, rejected,
    message⟩

end Abacus.Grammar
