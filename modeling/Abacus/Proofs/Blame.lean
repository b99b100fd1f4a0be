/-
Module: Abacus.Proofs.Blame
Purpose: Where the faults of evaluation point to. Every number that evaluation
  comes to is placed at the node it was computed at, whatever place it had when
  its name was bound; so a fault in arithmetic points at the operand to blame,
  and all that a submission shows lies in its own source. In the tree of a
  source nothing else can fail than a quotient, a power or a name
  (`fault_points_at_operand`).
Main exports: evaluate_span, Blames, fault_points_at_operand
-/
import Abacus.Proofs.FailedRun
import Abacus.Proofs.SourceTree

namespace Abacus

/-!
### Places of numbers

A number may have been bound by an earlier submission, in another source. It is
placed anew at every node that it is handed through, the name that reads it
included.
-/

/-- A number that evaluation comes to is placed at its node. -/
theorem evaluate_span {context : Context} {e : Expr} {machine : Machine} {x : Number}
    (done : (evaluate context e machine).1 = .ok x) : x.span? = some e.span := by
  obtain ⟨after, done⟩ : ∃ after, evaluate context e machine = (.ok x, after) :=
    ⟨_, Prod.ext done rfl⟩
  cases e with
  | number literal =>
      obtain ⟨value, _, rfl⟩ := literalNumber_eq_ok_iff.mp (congrArg Prod.fst done)
      rfl
  | access name =>
      obtain ⟨y, _, rfl⟩ := lookUp_eq_ok_iff.mp (congrArg Prod.fst done)
      rfl
  | unary op operand span =>
      obtain ⟨y, _, rfl⟩ := evaluate_unary_eq_ok_iff.mp done
      rfl
  | binary op left right span =>
      obtain ⟨y, middle, z, last, _, _, computed, _⟩ :=
        evaluate_binary_eq_ok_iff.mp done
      obtain ⟨operator, value, _, _, rfl⟩ := applyOperator_eq_ok_iff.mp computed
      rfl
  | assign name value span =>
      obtain ⟨y, last, _, rfl, _⟩ := evaluate_assign_eq_ok_iff.mp done
      rfl

/-!
### Why a node fails

The nodes of a source have tokens that they can do with, so only three ways to
fail are left: a quotient by zero, a power of zero with a negative exponent, and
a name that no scope binds. For the first two the operands have been performed,
so the one to blame has a place and the fault points there.
-/

/-- The node fails because of its right operand, or because it is a name that no
    scope binds; and the fault points at that. The operands of a binary node
    have come to numbers, and the place to fall back on plays no part. -/
inductive Blames (context : Context) (before : List Expr)
    (start stop : Progress) (diagnostic : Diagnostic) : Expr → Prop where
  | division {op : Token} {left right : Expr} {span : Span} {x y : Number}
      (cameTo : OperandsCameTo context left right before start x y stop)
      (divides : op.kind = .divide) (zero : y.value.isZero = true)
      (message : diagnostic.message = "cannot divide by zero")
      (points : diagnostic.span = right.span)
      (refused : ∀ fallback, applyOperator context op x y fallback = .error diagnostic) :
      Blames context before start stop diagnostic (.binary op left right span)
  | power {op : Token} {left right : Expr} {span : Span} {x y : Number}
      (cameTo : OperandsCameTo context left right before start x y stop)
      (raises : op.kind = .power) (zero : x.value.isZero = true)
      (negative : y.value.isNegative = true)
      (message : diagnostic.message = "cannot raise zero to a negative power")
      (points : diagnostic.span = right.span)
      (refused : ∀ fallback, applyOperator context op x y fallback = .error diagnostic) :
      Blames context before start stop diagnostic (.binary op left right span)
  | access {name : Token}
      (unbound : ∀ scope ∈ stop.environment.scopes,
        scope.get? (Expr.nameOf name) = none)
      (message : diagnostic.message =
        "unknown identifier '" ++ Expr.nameOf name ++ "'")
      (points : diagnostic.span = name.span) :
      Blames context before start stop diagnostic (.access name)

/-- A binary node of a source that fails has itself or its operands to blame. -/
theorem blames_binary {context : Context} {e left right : Expr} {op : Token}
    {span : Span} {before after : List Expr} {start stop : Progress}
    {diagnostic : Diagnostic} (written : ∃ operator, op.kind.operator? = some operator)
    (nodes : e.postorder = before ++ .binary op left right span :: after)
    (done : PerformsAll context before start stop)
    (fails : Fails context (.binary op left right span) stop diagnostic) :
    Blames context before start stop diagnostic (.binary op left right span) := by
  obtain ⟨x, y, cameTo⟩ := done.operandsCameTo nodes
  have evaluated := cameTo
  obtain ⟨_, _, _, _, last, _, _, _, rightDone, rfl⟩ := evaluated
  cases fails with
  | binary refused =>
      have placed : y.span? = some right.span :=
        evaluate_span (congrArg Prod.fst rightDone)
      obtain ⟨operator, fault, written, computed, rfl, points⟩ :=
        applyOperator_eq_error refused written placed
      rcases Value.apply_eq_error computed
        with ⟨rfl, zero, rfl⟩ | ⟨rfl, zero, negative, rfl⟩
      · exact .division cameTo (Kind.operator?_injective written rfl) zero rfl rfl points
      · exact .power cameTo
          (Kind.operator?_injective written rfl) zero negative rfl rfl points

theorem blames_access {context : Context} {name : Token} {before : List Expr}
    {start stop : Progress} {diagnostic : Diagnostic}
    (fails : Fails context (.access name) stop diagnostic) :
    Blames context before start stop diagnostic (.access name) := by
  cases fails with
  | access unknown =>
      unfold lookUp at unknown
      split at unknown
      case h_1 => cases unknown
      case h_2 unbound =>
        cases unknown
        exact .access (List.findSome?_eq_none_iff.mp unbound) rfl rfl

/-- A node of a source that fails has something to blame. -/
theorem blames_of_fails {context : Context} {source : Source} {e node : Expr}
    {before after : List Expr} {start stop : Progress} {diagnostic : Diagnostic}
    (standsIn : node.StandsIn source) (nodes : e.postorder = before ++ node :: after)
    (done : PerformsAll context before start stop)
    (fails : Fails context node stop diagnostic) :
    Blames context before start stop diagnostic node := by
  have readable := standsIn.readable
  cases node with
  | number literal =>
      obtain ⟨value, carried⟩ := readable
      cases fails with
      | number lacking =>
          have number : literalNumber context literal =
              .ok { value, span? := some literal.span } :=
            literalNumber_eq_ok_iff.mpr ⟨value, carried, rfl⟩
          cases lacking.symm.trans number
  | access name => exact blames_access fails
  | unary op operand span => cases fails
  | binary op left right span => exact blames_binary readable nodes done fails
  | assign name value span => cases fails

/-- A fault points at a node of the tree: at the one that fails or at one before
    it. -/
theorem Blames.exists_blamed {context : Context} {e node : Expr}
    {before after : List Expr} {start stop : Progress} {diagnostic : Diagnostic}
    (blames : Blames context before start stop diagnostic node)
    (nodes : e.postorder = before ++ node :: after) :
    ∃ blamed ∈ e.postorder, diagnostic.span = blamed.span := by
  rw [nodes]
  have operand {left right : Expr} {x y : Number}
      (cameTo : OperandsCameTo context left right before start x y stop) :
      right ∈ before ++ node :: after := by
    obtain ⟨earlier, _, _, _, _, rfl, _⟩ := cameTo
    simp [right.self_mem_postorder]
  cases blames with
  | division cameTo _ _ _ points => exact ⟨_, operand cameTo, points⟩
  | power cameTo _ _ _ _ points => exact ⟨_, operand cameTo, points⟩
  | @access name _ _ points => exact ⟨.access name, by simp, points⟩

/-!
### Submissions

The statement is about a whole submission: its tree is that of a source, so the
nodes stand in the source, and the node that fails is the one at which the run
over them ends.
-/

/-- What a submission shows lies in its own source, whatever places the numbers
    have that its names are bound to. All nodes of its tree stand in the source.
    A result is placed at the whole tree. A fault is met at the first node that
    fails in post-order; it blames that node or its right operand, and points at
    it in the source. -/
theorem fault_points_at_operand {source : Source} {tree : Expr}
    (accepted : Expr.ofSource source = .ok tree) (environment : Environment) :
    (∀ node ∈ tree.postorder, node.StandsIn source) ∧
      (∀ x, (run source environment).outcome = .ok x → x.span? = some tree.span) ∧
      ∀ diagnostic, (run source environment).outcome = .error diagnostic →
        ∃ before node after stop, tree.postorder = before ++ node :: after ∧
          PerformsAll .program before ⟨[], environment⟩ stop ∧
          Fails .program node stop diagnostic ∧
          stop.environment = (run source environment).environment ∧
          Blames .program before ⟨[], environment⟩ stop diagnostic node ∧
          diagnostic.span.source = source := by
  have standsIn := standsIn_of_ofSource accepted
  obtain ⟨outcome, left⟩ := run_of_ofSource_ok accepted environment
  rw [outcome, left]
  refine ⟨standsIn, fun x done => evaluate_span done, fun diagnostic failed => ?_⟩
  obtain ⟨operands, before, node, after, nodes, done, fails⟩ :=
    evaluate_error failed []
  have blames : Blames .program before ⟨[], environment⟩ _ diagnostic node :=
    blames_of_fails (standsIn node (by simp [nodes])) nodes done fails
  refine ⟨before, node, after, _, nodes, done, fails, rfl, blames, ?_⟩
  obtain ⟨blamed, member, points⟩ := blames.exists_blamed nodes
  rw [points]
  exact (standsIn blamed member).source_eq

/-- A quotient by a name that is bound on the way to zero, since another name
    was bound to four before. -/
def quotientByBound : Source :=
  { label := "<test>", content := "(let a = 4 - z) * 0 + 1 / a" }

/-- An inner scope in one that has bound `z` to four in another source. -/
def boundElsewhere : Environment :=
  let elsewhere : Source := { label := "<earlier>", content := "let z = 4" }
  (Environment.empty.set "z"
      { value := .int 4, span? := some ⟨⟨0, 0, 0⟩, ⟨9, 0, 9⟩, elsewhere⟩ }).push

theorem fault_points_at_operand_of_quotient :
    ∃ tree diagnostic, Expr.ofSource quotientByBound = .ok tree ∧
      (run quotientByBound boundElsewhere).outcome = .error diagnostic ∧
      diagnostic.message = "cannot divide by zero" ∧
      diagnostic.span.source = quotientByBound ∧
      diagnostic.span.start.offset = 26 := by
  obtain ⟨tree, accepted⟩ : ∃ tree, Expr.ofSource quotientByBound = .ok tree := by
    cases parsed : Expr.ofSource quotientByBound with
    | ok tree => exact ⟨tree, rfl⟩
    | error diagnostic =>
        have accepted : (Expr.ofSource quotientByBound).isOk = true := by decide +kernel
        rw [parsed] at accepted
        cases accepted
  have failed : (run quotientByBound boundElsewhere).outcome =
      .error (.runtime (.arithmetic .divisionByZero) ⟨⟨26, 0, 26⟩, ⟨27, 0, 27⟩,
        quotientByBound⟩
        [⟨"<test>", 1, "<program>"⟩]) := by decide +kernel
  obtain ⟨_, _, _, _, _, _, _, _, _, inSource⟩ :=
    (fault_points_at_operand accepted boundElsewhere).2.2 _ failed
  exact ⟨tree, _, accepted, failed, rfl, inSource, rfl⟩

end Abacus
