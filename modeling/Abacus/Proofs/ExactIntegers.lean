/-
Module: Abacus.Proofs.ExactIntegers
Purpose: Evaluation over the unbounded integers, and how evaluation over words
  and doubles keeps to it. An evaluation that comes to an integer comes to the
  exact one at every node, and reads no double from a literal or a binding
  (`Yields.atNodes`). Conversely it comes to an integer wherever every node has
  an exact value that a word holds, powers with a huge exponent apart
  (`exists_yields`): a power of minus one, zero or one fits a word whatever its
  exponent, but beyond 32 bits of exponent it is computed on doubles
  (`Operator.GivesUp`).
Main exports: Value.integer?, IsWord, Operator.onIntegers?, Operator.Settles,
  Value.settles, Expr.onIntegers?, Expr.AtNodes, Expr.Yields,
  Expr.Yields.atNodes, Expr.exists_yields, integer_result_is_exact,
  integers_left_on_overflow
-/
import Abacus.Proofs.FailedRun
import Mathlib.Algebra.Group.Int.Defs

namespace Abacus

/-!
### Integers

The side on which nothing is lost: names that stand for integers without bound.
A scope of the language says which integers its names stand for, and binding a
name says the same on both sides (`integers_set`).
-/

/-- The integer that a value is, if it is one. -/
def Value.integer? : Value → Option Int
  | .int i => some i.toInt
  | .float _ => none

/-- The integer that a literal writes, if it writes one. -/
def Token.integer? (literal : Token) : Option Int :=
  (literal.payload?.bind Payload.value?).bind Value.integer?

/-- The integers that names stand for. -/
abbrev Integers := String → Option Int

/-- The names that stand for integers; one that is unbound or bound to a double
    stands for none. -/
def Environment.integers (environment : Environment) : Integers :=
  fun name => (environment.get? name).bind (·.value.integer?)

/-- Lets a name stand for an integer. -/
def Integers.set (integers : Integers) (name : String) (n : Int) : Integers :=
  fun other => if other = name then some n else integers other

/-- The integers that a word of 64 bits holds. -/
def IsWord (n : Int) : Prop :=
  -9223372036854775808 ≤ n ∧ n ≤ 9223372036854775807

theorem isWord_toInt (w : Int64) : IsWord w.toInt := by
  have lower := w.minValue_le_toInt
  have upper := w.toInt_le
  rw [Int64.toInt_minValue] at lower
  rw [Int64.toInt_maxValue] at upper
  exact ⟨lower, upper⟩

theorem word?_eq_none_of_not_isWord {n : Int} (beyond : ¬ IsWord n) :
    word? n = none := by
  rw [word?_eq_none_iff, Int64.toInt_minValue, Int64.toInt_maxValue]
  unfold IsWord at beyond
  omega

theorem exists_word {n : Int} (fits : IsWord n) :
    ∃ w, word? n = some w ∧ w.toInt = n := by
  cases found : word? n with
  | some w => exact ⟨w, rfl, word?_eq_some_iff.mp found⟩
  | none =>
      rw [word?_eq_none_iff, Int64.toInt_minValue, Int64.toInt_maxValue] at found
      unfold IsWord at fits
      omega

/-- Binding a name to an integer lets it stand for the integer. -/
theorem integers_set {environment : Environment} {name : String} {x : Number}
    {n : Int} (integral : x.value.integer? = some n) :
    (environment.set name x).integers = environment.integers.set name n := by
  funext other
  simp only [Environment.integers, Integers.set, Environment.get?_set]
  split
  · exact integral
  · rfl

/-!
### Operators

`Settles` says all that an operator does on two words: it comes to the exact
result if a word holds that and it is not given up, and else to a double. It is
proved for operations that are exact by one lemma, and for powers by another;
and no operator makes an integer out of anything but integers
(`integer?_apply`).
-/

/-- The result of an operator on unbounded integers. A quotient is no integer,
    and neither is a negative power. -/
def Operator.onIntegers? : Operator → Int → Int → Option Int
  | .add, a, b => some (a + b)
  | .subtract, a, b => some (a - b)
  | .multiply, a, b => some (a * b)
  | .divide, _, _ => none
  | .power, a, b => if 0 ≤ b then some (a ^ b.toNat) else none

/-- The powers that are computed on doubles although a word holds them, the
    exponent being too great. -/
def Operator.GivesUp : Operator → Int → Int → Prop
  | .power, a, b => a.natAbs ≤ 1 ∧ (Value.greatestExactExponent : Int) < b
  | _, _, _ => False

/-- On two words the operator comes to the word for `n` if there is one and it
    is not given up, and else to a double. -/
def Operator.Settles (operator : Operator) (i j : Int64) (n : Int) : Prop :=
  (IsWord n → ¬ operator.GivesUp i.toInt j.toInt →
    ∃ w, Value.apply operator (.int i) (.int j) = .ok (.int w) ∧ w.toInt = n) ∧
  (¬ IsWord n ∨ operator.GivesUp i.toInt j.toInt →
      ∃ x, Value.apply operator (.int i) (.int j) = .ok (.float x))

namespace Value

/-- An integer that comes out of an exact operation is its result on integers. -/
theorem integer?_combine {exact : Int → Int → Int}
    {inexact : Float → Float → Float} {x y : Value} {n : Int}
    (integral : (combine exact inexact x y).integer? = some n) :
    ∃ a b, x.integer? = some a ∧ y.integer? = some b ∧ n = exact a b := by
  unfold combine at integral
  split at integral
  case h_1 i j =>
    split at integral
    case h_1 w found =>
      cases integral
      exact ⟨i.toInt, j.toInt, rfl, rfl, word?_eq_some_iff.mp found⟩
    case h_2 => cases integral
  case h_2 => cases integral

/-- An exact operation on words gives the word for its result, if there is one. -/
theorem combine_of_isWord (exact : Int → Int → Int) (inexact : Float → Float → Float)
    {i j : Int64} (fits : IsWord (exact i.toInt j.toInt)) :
    ∃ w, combine exact inexact (.int i) (.int j) = .int w ∧
      w.toInt = exact i.toInt j.toInt := by
  obtain ⟨w, found, same⟩ := exists_word fits
  exact ⟨w, by simp only [combine, found], same⟩

/-- An exact operation on words whose result no word holds gives a double. -/
theorem combine_of_not_isWord {exact : Int → Int → Int}
    (inexact : Float → Float → Float) {i j : Int64}
    (beyond : ¬ IsWord (exact i.toInt j.toInt)) :
    combine exact inexact (.int i) (.int j) = .float (inexact i.toFloat j.toFloat) := by
  simp only [combine, word?_eq_none_of_not_isWord beyond]

/-- An integer that comes out of a power is a power of integers with a natural
    exponent. -/
theorem integer?_power {x y : Value} {n : Int}
    (integral : (power x y).integer? = some n) :
    ∃ a b, x.integer? = some a ∧ y.integer? = some b ∧ 0 ≤ b ∧
      b ≤ greatestExactExponent ∧ n = a ^ b.toNat := by
  unfold power at integral
  split at integral
  case h_1 base exponent =>
    split at integral
    case h_1 w found =>
      cases integral
      unfold exactPower? at found
      split at found
      case isTrue small =>
        rw [wordPower?_eq, word?_eq_some_iff] at found
        refine ⟨base.toInt, exponent.toInt, rfl, rfl, small.1, ?_, found⟩
        omega
      case isFalse => cases found
    case h_2 => cases integral
  case h_2 => cases integral

/-- A power that a word holds is computed exactly, unless its exponent is too
    great. -/
theorem power_of_isWord {base exponent : Int64} (natural : 0 ≤ exponent.toInt)
    (fits : IsWord (base.toInt ^ exponent.toInt.toNat))
    (kept : ¬ Operator.power.GivesUp base.toInt exponent.toInt) :
    ∃ w, power (.int base) (.int exponent) = .int w ∧
      w.toInt = base.toInt ^ exponent.toInt.toNat := by
  obtain ⟨w, found, same⟩ := exists_word fits
  have small : exponent.toInt.toNat ≤ greatestExactExponent := by
    refine Nat.le_of_not_lt fun great => ?_
    -- A base that is not given up outgrows a word long before.
    have large : 2 ≤ base.toInt.natAbs := by
      simp only [Operator.GivesUp, not_and] at kept
      omega
    have many : 64 ≤ exponent.toInt.toNat := by
      unfold greatestExactExponent at great
      omega
    have none : word? (base.toInt ^ exponent.toInt.toNat) = none :=
      word?_pow_eq_none large many
    rw [found] at none
    cases none
  have computed : exactPower? base exponent = some w := by
    rw [exactPower?, if_pos ⟨natural, small⟩, wordPower?_eq]
    exact found
  exact ⟨w, by simp only [power, computed], same⟩

/-- A power that no word holds, or that has too great an exponent, is a double. -/
theorem power_of_lost {base exponent : Int64}
    (lost : ¬ IsWord (base.toInt ^ exponent.toInt.toNat) ∨
      Operator.power.GivesUp base.toInt exponent.toInt) :
    power (.int base) (.int exponent) = .float (base.toFloat.pow exponent.toFloat) := by
  have computed : exactPower? base exponent = none := by
    unfold exactPower?
    split
    case isTrue small =>
      rcases lost with beyond | ⟨_, great⟩
      · rw [wordPower?_eq]
        exact word?_eq_none_of_not_isWord beyond
      · omega
    case isFalse => rfl
  simp only [power, computed]

/-- An integer that comes out of an operator is the result of the operator on
    integers, and was not given up. -/
theorem integer?_apply {operator : Operator} {x y result : Value} {n : Int}
    (computed : apply operator x y = .ok result)
    (integral : result.integer? = some n) :
    ∃ a b, x.integer? = some a ∧ y.integer? = some b ∧
      operator.onIntegers? a b = some n ∧ ¬ operator.GivesUp a b := by
  cases operator with
  | add =>
      cases computed
      obtain ⟨a, b, left, right, rfl⟩ := integer?_combine integral
      exact ⟨a, b, left, right, rfl, id⟩
  | subtract =>
      cases computed
      obtain ⟨a, b, left, right, rfl⟩ := integer?_combine integral
      exact ⟨a, b, left, right, rfl, id⟩
  | multiply =>
      cases computed
      obtain ⟨a, b, left, right, rfl⟩ := integer?_combine integral
      exact ⟨a, b, left, right, rfl, id⟩
  | divide =>
      simp only [apply] at computed
      split at computed
      case isTrue => cases computed
      case isFalse =>
        -- A quotient is a double.
        cases computed
        cases integral
  | power =>
      simp only [apply] at computed
      split at computed
      case isTrue => cases computed
      case isFalse =>
        cases computed
        obtain ⟨a, b, left, right, natural, small, rfl⟩ := integer?_power integral
        refine ⟨a, b, left, right, if_pos natural, fun givenUp => ?_⟩
        exact absurd givenUp.2 (Int.not_lt.mpr small)

/-- An exact operation that is never given up gives the word for its result if
    there is one, and else a double. -/
theorem settles_of_combine {operator : Operator} {f : Int → Int → Int}
    (g : Float → Float → Float) {i j : Int64}
    (computed : apply operator (.int i) (.int j) = .ok (combine f g (.int i) (.int j)))
    (kept : ¬ operator.GivesUp i.toInt j.toInt) :
    operator.Settles i j (f i.toInt j.toInt) := by
  refine ⟨fun fits _ => ?_, fun lost => ?_⟩
  · obtain ⟨w, result, same⟩ := combine_of_isWord f g fits
    rw [computed, result]
    exact ⟨w, rfl, same⟩
  · rw [computed, combine_of_not_isWord g (lost.resolve_right kept)]
    exact ⟨_, rfl⟩

/-- A power with a natural exponent gives the word for its result if there is
    one and it is not given up, and else a double. -/
theorem settles_power {i j : Int64} (natural : 0 ≤ j.toInt) :
    Operator.power.Settles i j (i.toInt ^ j.toInt.toNat) := by
  have notNegative : isNegative (.int j) = false := by
    simpa [isNegative, Int64.lt_iff_toInt_lt] using natural
  have computed : apply .power (.int i) (.int j) = .ok (power (.int i) (.int j)) := by
    simp [apply, notNegative]
  refine ⟨fun fits kept => ?_, fun lost => ?_⟩
  · obtain ⟨w, result, same⟩ := power_of_isWord natural fits kept
    rw [computed, result]
    exact ⟨w, rfl, same⟩
  · rw [computed, power_of_lost lost]
    exact ⟨_, rfl⟩

/-- Every operator on words keeps to words as long as it can. -/
theorem settles {operator : Operator} {i j : Int64} {n : Int}
    (defined : operator.onIntegers? i.toInt j.toInt = some n) :
    operator.Settles i j n := by
  cases operator with
  | add =>
      cases defined
      exact settles_of_combine (· + ·) rfl id
  | subtract =>
      cases defined
      exact settles_of_combine (· - ·) rfl id
  | multiply =>
      cases defined
      exact settles_of_combine (· * ·) rfl id
  | divide => cases defined
  | power =>
      simp only [Operator.onIntegers?, Option.ite_none_right_eq_some, Option.some.injEq]
        at defined
      obtain ⟨natural, rfl⟩ := defined
      exact settles_power natural

theorem integer?_eq_some_iff {x : Value} {n : Int} :
    x.integer? = some n ↔ ∃ w, x = .int w ∧ w.toInt = n := by
  cases x <;> simp [integer?]

/-- An operator comes to an integer exactly if it does so on integers, unless it
    is given up. -/
theorem apply_eq_int_iff {operator : Operator} {x y : Value} {w : Int64} :
    apply operator x y = .ok (.int w) ↔
      ∃ a b, x.integer? = some a ∧ y.integer? = some b ∧
        operator.onIntegers? a b = some w.toInt ∧
        ¬ operator.GivesUp a b := by
  constructor
  · intro computed
    exact integer?_apply computed rfl
  · rintro ⟨a, b, left, right, defined, kept⟩
    obtain ⟨i, rfl, rfl⟩ := integer?_eq_some_iff.mp left
    obtain ⟨j, rfl, rfl⟩ := integer?_eq_some_iff.mp right
    obtain ⟨w', computed, same⟩ := (settles defined).1 (isWord_toInt w) kept
    rw [computed, Int64.toInt_inj.mp same]

/-- A negative is an integer exactly if it is one of an integer. -/
theorem negate_eq_int_iff {x : Value} {w : Int64} :
    x.negate = .int w ↔ ∃ a, x.integer? = some a ∧ -a = w.toInt := by
  unfold negate
  constructor
  · intro computed
    obtain ⟨zero, a, zeroIs, right, same⟩ :=
      integer?_combine (n := w.toInt) (by rw [computed]; rfl)
    obtain rfl := Option.some.inj zeroIs
    refine ⟨a, right, ?_⟩
    rw [same, Int64.toInt_zero, Int.zero_sub]
  · rintro ⟨a, right, same⟩
    obtain ⟨i, rfl, rfl⟩ := integer?_eq_some_iff.mp right
    have negative : (0 : Int64).toInt - i.toInt = w.toInt := by
      rw [Int64.toInt_zero, Int.zero_sub, same]
    have fits : IsWord ((0 : Int64).toInt - i.toInt) := negative ▸ isWord_toInt w
    obtain ⟨w', computed, same'⟩ := combine_of_isWord (· - ·) (· - ·) fits
    rw [computed, Int64.toInt_inj.mp (same'.trans negative)]

end Value

/-!
### Trees

The value of a tree over the integers without bound, with the integers that
names stand for afterwards. What is claimed of every node is said by `AtNodes`,
which goes through the tree with the states that evaluation goes through, so
that it can be said over machines as well as over integers and carried from one
to the other (`AtNodes.transfer`).
-/

namespace Expr

/-- The value of an expression over the unbounded integers, and the integers
    that names stand for afterwards. There is none if anything in the expression
    is no integer. -/
def onIntegers? : Expr → Integers → Option (Int × Integers)
  | .number literal, integers => literal.integer?.map (·, integers)
  | .access name, integers => (integers (nameOf name)).map (·, integers)
  | .unary op operand _, integers => do
      let (n, integers) ← operand.onIntegers? integers
      return (if op.kind = .minus then -n else n, integers)
  | .binary op left right _, integers => do
      let (a, integers) ← left.onIntegers? integers
      let (b, integers) ← right.onIntegers? integers
      let operator ← op.kind.operator?
      let n ← operator.onIntegers? a b
      return (n, integers)
  | .assign name value _, integers => do
      let (n, integers) ← value.onIntegers? integers
      return (n, integers.set (nameOf name) n)

/-- Something holds of every node of the tree together with the state in which
    its evaluation begins; `after` says in what state the evaluation of a node
    ends. -/
def AtNodes {State : Type} (after : Expr → State → State)
    (holds : Expr → State → Prop) : Expr → State → Prop
  | e@(.number _), state | e@(.access _), state => holds e state
  | e@(.unary _ operand _), state | e@(.assign _ operand _), state =>
      operand.AtNodes after holds state ∧ holds e state
  | e@(.binary _ left right _), state =>
      left.AtNodes after holds state ∧
        right.AtNodes after holds (after left state) ∧ holds e state

section

variable {integers after : Integers} {n : Int}

theorem onIntegers?_unary_eq_some_iff {op : Token} {operand : Expr} {span : Span} :
    (unary op operand span).onIntegers? integers = some (n, after) ↔
      ∃ a, operand.onIntegers? integers = some (a, after) ∧
        (if op.kind = .minus then -a else a) = n := by
  simp only [onIntegers?, Option.bind_eq_bind, Option.bind_eq_some_iff]
  constructor
  · rintro ⟨⟨a, _⟩, value, ⟨⟩⟩
    exact ⟨a, value, rfl⟩
  · rintro ⟨a, value, rfl⟩
    exact ⟨(a, after), value, rfl⟩

theorem onIntegers?_binary_eq_some_iff {op : Token} {left right : Expr} {span : Span} :
    (binary op left right span).onIntegers? integers = some (n, after) ↔
      ∃ a middle b operator, left.onIntegers? integers = some (a, middle) ∧
        right.onIntegers? middle = some (b, after) ∧ op.kind.operator? = some operator ∧
        operator.onIntegers? a b = some n := by
  simp only [onIntegers?, Option.bind_eq_bind, Option.bind_eq_some_iff]
  constructor
  · rintro ⟨⟨a, middle⟩, leftValue, ⟨b, _⟩, rightValue, operator, written, _, result, ⟨⟩⟩
    exact ⟨a, middle, b, operator, leftValue, rightValue, written, result⟩
  · rintro ⟨a, middle, b, operator, leftValue, rightValue, written, result⟩
    exact ⟨(a, middle), leftValue, (b, after), rightValue, operator, written, n,
      result, rfl⟩

theorem onIntegers?_assign_eq_some_iff {name : Token} {value : Expr} {span : Span} :
    (assign name value span).onIntegers? integers = some (n, after) ↔
      ∃ middle, value.onIntegers? integers = some (n, middle) ∧
        middle.set (nameOf name) n = after := by
  simp only [onIntegers?, Option.bind_eq_bind, Option.bind_eq_some_iff]
  constructor
  · rintro ⟨⟨_, middle⟩, found, ⟨⟩⟩
    exact ⟨middle, found, rfl⟩
  · rintro ⟨middle, found, rfl⟩
    exact ⟨(n, middle), found, rfl⟩

end

theorem AtNodes.root {State : Type} {after : Expr → State → State}
    {holds : Expr → State → Prop} {e : Expr} {state : State}
    (everywhere : e.AtNodes after holds state) : holds e state := by
  cases e with
  | number literal => exact everywhere
  | access name => exact everywhere
  | unary op operand span => exact everywhere.2
  | binary op left right span => exact everywhere.2.2
  | assign name value span => exact everywhere.2

/-- What holds at every node can be said of a view of the states if it makes
    evaluation end in the same view. -/
theorem AtNodes.transfer {State View : Type} {after : Expr → State → State}
    {after' : Expr → View → View} {holds : Expr → State → Prop}
    {holds' : Expr → View → Prop} (view : State → View)
    (follows : ∀ node state, holds node state →
      holds' node (view state) ∧ after' node (view state) = view (after node state))
    {e : Expr} {state : State} (everywhere : e.AtNodes after holds state) :
    e.AtNodes after' holds' (view state) := by
  induction e generalizing state with
  | number literal => exact (follows _ _ everywhere).1
  | access name => exact (follows _ _ everywhere).1
  | unary op operand span operandTransfers =>
      exact ⟨operandTransfers everywhere.1, (follows _ _ everywhere.2).1⟩
  | binary op left right span leftTransfers rightTransfers =>
      obtain ⟨leftHolds, rightHolds, nodeHolds⟩ := everywhere
      refine ⟨leftTransfers leftHolds, ?_, (follows _ _ nodeHolds).1⟩
      rw [(follows _ _ leftHolds.root).2]
      exact rightTransfers rightHolds
  | assign name value span valueTransfers =>
      exact ⟨valueTransfers everywhere.1, (follows _ _ everywhere.2).1⟩

/-- The names that stand for integers after an expression that has a value on
    integers. -/
def integersAfter (e : Expr) (integers : Integers) : Integers :=
  (e.onIntegers? integers).elim integers Prod.snd

/-- The value of a node on integers is one that a word holds. -/
def HasWord (node : Expr) (integers : Integers) : Prop :=
  ∃ n after, node.onIntegers? integers = some (n, after) ∧ IsWord n

theorem HasWord.isWord {node : Expr} {integers after : Integers} {n : Int}
    (word : node.HasWord integers)
    (value : node.onIntegers? integers = some (n, after)) : IsWord n := by
  obtain ⟨n', after', value', fits⟩ := word
  obtain ⟨rfl, rfl⟩ := Prod.mk.inj (Option.some.inj (value.symm.trans value'))
  exact fits

/-- The node is no power that is given up. -/
def KeepsPower : Expr → Integers → Prop
  | .binary op left right _, integers =>
      ∀ a middle b last operator, left.onIntegers? integers = some (a, middle) →
        right.onIntegers? middle = some (b, last) →
        op.kind.operator? = some operator → ¬ operator.GivesUp a b
  | _, _ => True

/-!
### Evaluation and integers

Evaluation that comes to an integer is described node by node (`Yields`), by one
equivalence for each sort of node. From these it follows by induction that its
integers are the exact ones, and, the other way round, that evaluation comes to
an integer where every node has an exact value that a word holds. The second
direction has one exception, and `power_of_one_given_up` shows that it is met.
-/

/-- Evaluation from a machine comes to an integer and leaves another machine. -/
def Yields (context : Context) (e : Expr) (machine : Machine) (n : Int)
    (after : Machine) : Prop :=
  ∃ x, evaluate context e machine = (.ok x, after) ∧ x.value.integer? = some n

/-- A sign before an integer gives an integer exactly if a word holds it. -/
theorem integer?_applySign_iff {op : Token} {x : Number} {span : Span} {n : Int} :
    (applySign op x span).value.integer? = some n ↔
      ∃ a, x.value.integer? = some a ∧
        (if op.kind = .minus then -a else a) = n ∧ IsWord n := by
  unfold applySign
  dsimp only
  split
  case isTrue =>
    rw [Value.integer?_eq_some_iff]
    constructor
    · rintro ⟨w, computed, rfl⟩
      obtain ⟨a, operandIs, negative⟩ := Value.negate_eq_int_iff.mp computed
      exact ⟨a, operandIs, negative, isWord_toInt w⟩
    · rintro ⟨a, operandIs, negative, fits⟩
      obtain ⟨w, _, same⟩ := exists_word fits
      exact ⟨w,
        Value.negate_eq_int_iff.mpr ⟨a, operandIs, negative.trans same.symm⟩, same⟩
  case isFalse =>
    constructor
    · intro operandIs
      obtain ⟨w, _, rfl⟩ := Value.integer?_eq_some_iff.mp operandIs
      exact ⟨w.toInt, operandIs, rfl, isWord_toInt w⟩
    · rintro ⟨a, operandIs, rfl, _⟩
      exact operandIs

/-- Evaluation of a node comes to an integer, and it and the integers then bound
    are those that the node has on integers. -/
def ComputesExactly (context : Context) (node : Expr) (machine : Machine) : Prop :=
  ∃ n after, node.Yields context machine n after ∧
    node.onIntegers? machine.environment.integers = some (n, after.environment.integers)

section

variable {context : Context} {machine after : Machine} {n : Int}

theorem yields_number_iff {literal : Token} :
    (number literal).Yields context machine n after ↔
      literal.integer? = some n ∧ machine = after := by
  simp only [Yields, evaluate, Prod.mk.injEq, literalNumber_eq_ok_iff,
    Token.integer?, Option.bind_eq_some_iff]
  constructor
  · rintro ⟨_, ⟨⟨value, carried, rfl⟩, same⟩, integral⟩
    exact ⟨⟨value, carried, integral⟩, same⟩
  · rintro ⟨⟨value, carried, integral⟩, same⟩
    exact ⟨_, ⟨⟨value, carried, rfl⟩, same⟩, integral⟩

theorem yields_access_iff {name : Token} :
    (access name).Yields context machine n after ↔
      machine.environment.integers (nameOf name) = some n ∧ machine = after := by
  simp only [Yields, evaluate, Prod.mk.injEq, lookUp_eq_ok_iff,
    Environment.integers, Option.bind_eq_some_iff]
  constructor
  · rintro ⟨_, ⟨⟨y, found, rfl⟩, same⟩, integral⟩
    exact ⟨⟨y, found, integral⟩, same⟩
  · rintro ⟨⟨y, found, integral⟩, same⟩
    exact ⟨_, ⟨⟨y, found, rfl⟩, same⟩, integral⟩

theorem yields_unary_iff {op : Token} {operand : Expr} {span : Span} :
    (unary op operand span).Yields context machine n after ↔
      ∃ a, operand.Yields context machine a after ∧
        (if op.kind = .minus then -a else a) = n ∧ IsWord n := by
  simp only [Yields, evaluate_unary_eq_ok_iff]
  constructor
  · rintro ⟨_, ⟨y, done, rfl⟩, integral⟩
    obtain ⟨a, operandIs, same, fits⟩ := integer?_applySign_iff.mp integral
    exact ⟨a, ⟨y, done, operandIs⟩, same, fits⟩
  · rintro ⟨a, ⟨y, done, operandIs⟩, same, fits⟩
    exact ⟨_, ⟨y, done, rfl⟩, integer?_applySign_iff.mpr ⟨a, operandIs, same, fits⟩⟩

theorem yields_binary_iff {op : Token} {left right : Expr} {span : Span} :
    (binary op left right span).Yields context machine n after ↔
      ∃ a middle b last operator w, left.Yields context machine a middle ∧
        right.Yields context middle b last ∧
        op.kind.operator? = some operator ∧ operator.onIntegers? a b = some n ∧
        ¬ operator.GivesUp a b ∧ w.toInt = n ∧
        last.note (.computed (.binary op left right span) ⟨.int w, some span⟩) =
          after := by
  simp only [Yields, evaluate_binary_eq_ok_iff, applyOperator_eq_ok_iff]
  constructor
  · rintro ⟨_, ⟨x, middle, y, last, leftDone, rightDone,
        ⟨operator, _, written, computed, rfl⟩, noted⟩, integral⟩
    obtain ⟨w, rfl, rfl⟩ := Value.integer?_eq_some_iff.mp integral
    obtain ⟨a, b, leftIs, rightIs, defined, kept⟩ := Value.apply_eq_int_iff.mp computed
    exact ⟨a, middle, b, last, operator, w, ⟨x, leftDone, leftIs⟩,
      ⟨y, rightDone, rightIs⟩, written, defined, kept,
      rfl, noted⟩
  · rintro ⟨a, middle, b, last, operator, w, ⟨x, leftDone, leftIs⟩,
      ⟨y, rightDone, rightIs⟩, written, defined, kept,
      rfl, noted⟩
    have computed : x.value.apply operator y.value = .ok (.int w) :=
      Value.apply_eq_int_iff.mpr ⟨a, b, leftIs, rightIs, defined, kept⟩
    exact ⟨_, ⟨x, middle, y, last, leftDone, rightDone,
        ⟨operator, _, written, computed, rfl⟩, noted⟩, rfl⟩

theorem yields_assign_iff {name : Token} {value : Expr} {span : Span} :
    (assign name value span).Yields context machine n after ↔
      ∃ x last, evaluate context value machine = (.ok x, last) ∧
        x.value.integer? = some n ∧
        last.bind (nameOf name) (x.placedAt span) = after := by
  simp only [Yields, evaluate_assign_eq_ok_iff]
  constructor
  · rintro ⟨_, ⟨x, last, done, rfl, bound⟩, integral⟩
    exact ⟨x, last, done, integral, bound⟩
  · rintro ⟨x, last, done, integral, bound⟩
    exact ⟨_, ⟨x, last, done, rfl, bound⟩, integral⟩

theorem Yields.after_eq {e : Expr} (yields : e.Yields context machine n after) :
    (evaluate context e machine).2 = after := by
  obtain ⟨x, done, _⟩ := yields
  rw [done]

/-- An integer that an evaluation comes to is held by a word. -/
theorem Yields.isWord {e : Expr} (yields : e.Yields context machine n after) :
    IsWord n := by
  obtain ⟨x, _, integral⟩ := yields
  obtain ⟨w, _, rfl⟩ := Value.integer?_eq_some_iff.mp integral
  exact isWord_toInt w

/-- An integer that an evaluation comes to is the value of the expression on
    integers, and so are the integers that it binds. -/
theorem Yields.onIntegers? {e : Expr} (yields : e.Yields context machine n after) :
    e.onIntegers? machine.environment.integers =
      some (n, after.environment.integers) := by
  induction e generalizing machine n after with
  | number literal =>
      obtain ⟨written, rfl⟩ := yields_number_iff.mp yields
      simp [Expr.onIntegers?, written]
  | access name =>
      obtain ⟨found, rfl⟩ := yields_access_iff.mp yields
      simp [Expr.onIntegers?, found]
  | unary op operand span operandExact =>
      obtain ⟨a, operandYields, same, _⟩ := yields_unary_iff.mp yields
      exact onIntegers?_unary_eq_some_iff.mpr ⟨a, operandExact operandYields, same⟩
  | binary op left right span leftExact rightExact =>
      obtain ⟨a, middle, b, last, operator, w, leftYields, rightYields, written,
          result, _, _, rfl⟩ :=
        yields_binary_iff.mp yields
      have rightValue : right.onIntegers? middle.environment.integers =
          some (b, last.environment.integers) :=
        rightExact rightYields
      exact onIntegers?_binary_eq_some_iff.mpr
        ⟨a, _, b, operator, leftExact leftYields, rightValue, written, result⟩
  | assign name value span valueExact =>
      obtain ⟨x, last, done, integral, rfl⟩ := yields_assign_iff.mp yields
      refine onIntegers?_assign_eq_some_iff.mpr ⟨_, valueExact ⟨x, done, integral⟩, ?_⟩
      exact (integers_set (x := x.placedAt span) integral).symm

theorem Yields.computesExactly {e : Expr}
    (yields : e.Yields context machine n after) : e.ComputesExactly context machine :=
  ⟨n, after, yields, yields.onIntegers?⟩

/-- An evaluation that comes to an integer comes to one at every node, and to
    the right one. -/
theorem Yields.atNodes {e : Expr} (yields : e.Yields context machine n after) :
    e.AtNodes (fun node machine => (evaluate context node machine).2)
      (fun node machine => node.ComputesExactly context machine) machine := by
  induction e generalizing machine n after with
  | number literal => exact yields.computesExactly
  | access name => exact yields.computesExactly
  | unary op operand span operandEverywhere =>
      obtain ⟨a, operandYields, _, _⟩ := yields_unary_iff.mp yields
      exact ⟨operandEverywhere operandYields, yields.computesExactly⟩
  | binary op left right span leftEverywhere rightEverywhere =>
      obtain ⟨a, middle, b, last, operator, w, leftYields, rightYields, _⟩ :=
        yields_binary_iff.mp yields
      refine ⟨leftEverywhere leftYields, ?_, yields.computesExactly⟩
      rw [← leftYields.after_eq] at rightYields
      exact rightEverywhere rightYields
  | assign name value span valueEverywhere =>
      obtain ⟨x, last, done, integral, _⟩ := yields_assign_iff.mp yields
      exact ⟨valueEverywhere ⟨x, done, integral⟩, yields.computesExactly⟩

/-- A node that comes to an integer is no power that is given up. -/
theorem Yields.keepsPower {node : Expr}
    (yields : node.Yields context machine n after) :
    node.KeepsPower machine.environment.integers := by
  cases node with
  | binary op left right span =>
      obtain ⟨a, middle, b, last, operator, w, leftYields, rightYields, written,
          _, kept, _⟩ :=
        yields_binary_iff.mp yields
      intro a' middle' b' last' operator' leftValue rightValue written'
      obtain ⟨rfl, rfl⟩ :=
        Prod.mk.inj (Option.some.inj (leftYields.onIntegers?.symm.trans leftValue))
      obtain ⟨rfl, rfl⟩ :=
        Prod.mk.inj (Option.some.inj (rightYields.onIntegers?.symm.trans rightValue))
      obtain rfl := Option.some.inj (written.symm.trans written')
      exact kept
  | number | access | unary | assign => trivial

/-- Where an evaluation comes to an integer, a word holds the value of every
    node on integers, and no power is given up. -/
theorem Yields.hasWords {e : Expr} (yields : e.Yields context machine n after) :
    e.AtNodes integersAfter
      (fun node integers => node.HasWord integers ∧ node.KeepsPower integers)
      machine.environment.integers := by
  refine yields.atNodes.transfer
    (fun machine : Machine => machine.environment.integers) ?_
  rintro node machine ⟨n, after, nodeYields, _⟩
  refine ⟨⟨⟨n, _, nodeYields.onIntegers?, nodeYields.isWord⟩, nodeYields.keepsPower⟩, ?_⟩
  rw [integersAfter, nodeYields.onIntegers?, nodeYields.after_eq]
  rfl

/-- Evaluation comes to the value on integers if a word holds that of every node
    and no power is given up. -/
theorem exists_yields {e : Expr} {integers : Integers}
    (value : e.onIntegers? machine.environment.integers = some (n, integers))
    (words : e.AtNodes integersAfter
      (fun node integers => node.HasWord integers ∧ node.KeepsPower integers)
      machine.environment.integers) : ∃ after, e.Yields context machine n after := by
  have fits : IsWord n := words.root.1.isWord value
  induction e generalizing machine n integers with
  | number literal =>
      obtain ⟨_, written, ⟨⟩⟩ := Option.map_eq_some_iff.mp value
      exact ⟨machine, yields_number_iff.mpr ⟨written, rfl⟩⟩
  | access name =>
      obtain ⟨_, found, ⟨⟩⟩ := Option.map_eq_some_iff.mp value
      exact ⟨machine, yields_access_iff.mpr ⟨found, rfl⟩⟩
  | unary op operand span operandYields =>
      obtain ⟨a, operandValue, same⟩ := onIntegers?_unary_eq_some_iff.mp value
      obtain ⟨after, yields⟩ :=
        operandYields operandValue words.1 (words.1.root.1.isWord operandValue)
      exact ⟨after, yields_unary_iff.mpr ⟨a, yields, same, fits⟩⟩
  | binary op left right span leftYields rightYields =>
      obtain ⟨leftWords, rightWords, _, kept⟩ := words
      obtain ⟨a, middle, b, operator, leftValue, rightValue, written, result⟩ :=
        onIntegers?_binary_eq_some_iff.mp value
      obtain ⟨between, leftDone⟩ :=
        leftYields leftValue leftWords (leftWords.root.1.isWord leftValue)
      -- What the left operand binds is what its value on integers binds.
      have bound : middle = between.environment.integers :=
        congrArg Prod.snd (Option.some.inj (leftValue.symm.trans leftDone.onIntegers?))
      rw [integersAfter, leftValue] at rightWords
      subst bound
      obtain ⟨last, rightDone⟩ :=
        rightYields rightValue rightWords (rightWords.root.1.isWord rightValue)
      obtain ⟨w, _, same⟩ := exists_word fits
      exact ⟨_, yields_binary_iff.mpr ⟨a, between, b, last, operator, w,
          leftDone, rightDone, written, result,
          kept a _ b _ operator leftValue rightValue written, same, rfl⟩⟩
  | assign name inner span innerYields =>
      obtain ⟨middle, innerValue, _⟩ := onIntegers?_assign_eq_some_iff.mp value
      obtain ⟨last, x, done, integral⟩ := innerYields innerValue words.1 fits
      exact ⟨_, yields_assign_iff.mpr ⟨x, last, done, integral, rfl⟩⟩

end

end Expr

/-- An integer that an evaluation comes to is the value of the expression on
    integers, whatever the names were bound to before; and every node of the
    expression came to an integer that is the value of that node on integers, so
    no literal, binding or result on the way was a double, and none was wrapped. -/
theorem integer_result_is_exact {context : Context} {e : Expr} {machine : Machine}
    {x : Number} {w : Int64} (done : (evaluate context e machine).1 = .ok x)
    (integral : x.value = .int w) :
    e.onIntegers? machine.environment.integers =
        some (w.toInt, (evaluate context e machine).2.environment.integers) ∧
      e.AtNodes (fun node machine => (evaluate context node machine).2)
        (fun node machine => node.ComputesExactly context machine) machine := by
  have yields : e.Yields context machine w.toInt (evaluate context e machine).2 :=
    ⟨x, Prod.ext done rfl, Value.integer?_eq_some_iff.mpr ⟨w, integral, rfl⟩⟩
  exact ⟨yields.onIntegers?, yields.atNodes⟩

/-- `(let y = -x) * y + 2 ^ 3`, its tokens put together by hand. -/
def squareAndCube : Expr :=
  let name (text : String) : Token :=
    { kind := .identifier, payload? := some (.text text), span := default }
  let literal (i : Int64) : Expr :=
    .number { kind := .integer, payload? := some (.int i), span := default }
  let operator (kind : Kind) : Token := { kind, span := default }
  let binding := Expr.assign (name "y")
    (.unary (operator .minus) (.access (name "x")) default) default
  let square := Expr.binary (operator .multiply) binding (.access (name "y")) default
  let cube := Expr.binary (operator .power) (literal 2) (literal 3) default
  .binary (operator .plus) square cube default

/-- A scope that binds `x` to an integer, and inside it one that binds another
    name to a double. -/
def integerBehindDouble : Machine where
  environment := (Environment.empty.set "x" { value := .int 5 }).push.set "half"
    { value := .float 0.5 }

theorem integer_result_is_exact_of_square_and_cube :
    (evaluate .program squareAndCube integerBehindDouble).1 =
        .ok { value := .int 33, span? := some default } ∧
      (squareAndCube.onIntegers? integerBehindDouble.environment.integers).map
        Prod.fst = some 33 := by
  have done : (evaluate .program squareAndCube integerBehindDouble).1 =
      .ok { value := .int 33, span? := some default } := by decide +kernel
  refine ⟨done, ?_⟩
  rw [(integer_result_is_exact done rfl).1]
  rfl

/-- Words are left for doubles exactly where the result on integers is no word,
    or is a power that is given up. An operator on two words whose result on
    integers is defined keeps to words unless that is so; and evaluation comes
    to an integer exactly if it is so at no node, and then to the value of the
    expression on integers. -/
theorem integers_left_on_overflow (context : Context) :
    (∀ (operator : Operator) (i j : Int64) (n : Int),
      operator.onIntegers? i.toInt j.toInt = some n →
        operator.Settles i j n) ∧
      ∀ (e : Expr) (machine : Machine) (n : Int) (integers : Integers),
        (∃ after, e.Yields context machine n after ∧
          after.environment.integers = integers) ↔
        e.onIntegers? machine.environment.integers = some (n, integers) ∧
          e.AtNodes Expr.integersAfter
            (fun node integers => node.HasWord integers ∧ node.KeepsPower integers)
            machine.environment.integers := by
  refine ⟨fun operator i j n defined => Value.settles defined,
    fun e machine n integers => ?_⟩
  constructor
  · rintro ⟨after, yields, rfl⟩
    exact ⟨yields.onIntegers?, yields.hasWords⟩
  · rintro ⟨value, words⟩
    obtain ⟨after, yields⟩ := Expr.exists_yields value words
    refine ⟨after, yields, ?_⟩
    exact congrArg Prod.snd (Option.some.inj (yields.onIntegers?.symm.trans value))

/-- One to a power whose exponent has 33 bits. -/
def hugePowerOfOne : Source := { label := "<test>", content := "1 ^ 4294967296" }

/-- The tree of `hugePowerOfOne`. -/
def hugePowerOfOneTree : Expr :=
  let span (start stop : Nat) : Span :=
    ⟨⟨start, 0, start⟩, ⟨stop, 0, stop⟩, hugePowerOfOne⟩
  let base : Token := ⟨.integer, some (.int 1), span 0 1⟩
  let exponent : Token := ⟨.integer, some (.int 4294967296), span 4 14⟩
  .binary ⟨.power, none, span 2 3⟩ (.number base) (.number exponent) (span 0 14)

/-- Every node of `hugePowerOfOne` has a value on integers that a word holds,
    and still it comes to a double. -/
theorem power_of_one_given_up :
    Expr.ofSource hugePowerOfOne = .ok hugePowerOfOneTree ∧
      (hugePowerOfOneTree.onIntegers? Environment.empty.integers).map Prod.fst = some 1 ∧
      hugePowerOfOneTree.AtNodes Expr.integersAfter
        (fun node integers => node.HasWord integers)
        Environment.empty.integers ∧
      ∃ x span, (run hugePowerOfOne .empty).outcome =
        .ok { value := .float x, span? := some span } := by
  have parsed : Expr.ofSource hugePowerOfOne = .ok hugePowerOfOneTree := by
    decide +kernel
  have power : Operator.power.onIntegers? 1 4294967296 = some 1 := by
    rw [Operator.onIntegers?, if_pos (by decide), Int.one_pow]
  have value : hugePowerOfOneTree.onIntegers? Environment.empty.integers =
      some (1, Environment.empty.integers) :=
    Expr.onIntegers?_binary_eq_some_iff.mpr
      ⟨1, _, 4294967296, .power, rfl, rfl, rfl, power⟩
  have lost : ∃ x, Value.apply .power (.int 1) (.int 4294967296) = .ok (.float x) :=
    (Value.settles (i := 1) (j := 4294967296) power).2 (.inr ⟨by decide, by decide⟩)
  obtain ⟨x, lost⟩ := lost
  refine ⟨parsed, by rw [value]; rfl, ?_, ?_⟩
  · exact ⟨⟨1, _, rfl, isWord_toInt 1⟩,
      ⟨4294967296, _, rfl, isWord_toInt 4294967296⟩, 1, _, value, isWord_toInt 1⟩
  · rw [(run_of_ofSource_ok parsed .empty).1]
    have done : ∃ after, evaluate .program hugePowerOfOneTree {} =
        (.ok { value := .float x, span? := some hugePowerOfOneTree.span }, after) :=
      ⟨_, evaluate_binary_eq_ok_iff.mpr
          ⟨⟨.int 1, _⟩, _, ⟨.int 4294967296, _⟩, _, rfl, rfl,
            applyOperator_eq_ok_iff.mpr ⟨.power, .float x, rfl, lost, rfl⟩, rfl⟩⟩
    obtain ⟨after, done⟩ := done
    exact ⟨x, hugePowerOfOneTree.span, congrArg Prod.fst done⟩

end Abacus
