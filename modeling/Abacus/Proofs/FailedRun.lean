/-
Module: Abacus.Proofs.FailedRun
Purpose: What a failed submission leaves behind. A text that has no tokens or no
  tree changes no binding. A fault of evaluation leaves every binding made
  before it, since bindings are expressions and may stand anywhere in a larger
  one: `(let x = 1) + y` binds `x` although `y` is unknown. Nothing else
  changes: the bindings are those of the nodes that come before the failing one
  in post-order.
Main exports: environment_of_failed_run, binding_survives_failed_run
-/
import Abacus.Program
import Abacus.Proofs.ParserAgreement
import Abacus.Proofs.PostOrder
import Mathlib.Control.Monad.Basic

namespace Abacus

/-!
### Which stage a fault comes from

Every stage has its own sort of fault, so the sort of a fault tells how far a
submission has come. Only the last stage binds names.
-/

/-- A text that cannot be divided into tokens has a lexical fault. -/
theorem kindName_of_placePieces {source : Source} {position : Position}
    {pieces : List (List Char)} {diagnostic : Diagnostic}
    (failed : placePieces source position pieces = .error diagnostic) :
    diagnostic.kindName = "Lexical Error" := by
  obtain ⟨_, _, _, _, _, _, _, _, rfl⟩ := exists_unread failed
  rfl

/-- A source without a tree has a lexical or a syntax fault. -/
theorem kindName_of_ofSource {source : Source} {diagnostic : Diagnostic}
    (failed : Expr.ofSource source = .error diagnostic) :
    diagnostic.kindName ≠ "Runtime Error" := by
  unfold Expr.ofSource at failed
  cases tokenized : source.tokens with
  | error fault =>
      rw [tokenized] at failed
      cases failed
      rw [kindName_of_placePieces tokenized]
      decide
  | ok tokens =>
      rw [tokenized] at failed
      dsimp only at failed
      rcases Grammar.ofTokens_eq_ok_or_grammatical tokens
        with ⟨tree, done⟩ | ⟨fault, span, grammatical⟩
      · rw [done] at failed
        cases failed
      · rw [grammatical] at failed
        cases failed
        simp [Diagnostic.kindName]

/-- A node that cannot be performed has a fault that is met in the context of
    the evaluation. -/
theorem Fails.exists_fault {context : Context} {node : Expr} {progress : Progress}
    {diagnostic : Diagnostic} (fails : Fails context node progress diagnostic) :
    ∃ fault span, diagnostic = context.fault fault span := by
  cases fails with
  | number lacking =>
      unfold literalNumber at lacking
      split at lacking <;> cases lacking
      exact ⟨_, _, rfl⟩
  | access unknown =>
      unfold lookUp at unknown
      split at unknown <;> cases unknown
      exact ⟨_, _, rfl⟩
  | binary refused =>
      unfold applyOperator at refused
      split at refused
      case h_1 =>
        cases refused
        exact ⟨_, _, rfl⟩
      case h_2 =>
        split at refused <;> cases refused
        exact ⟨_, _, rfl⟩

/-- A node that cannot be performed has a fault of evaluation. -/
theorem Fails.kindName {context : Context} {node : Expr} {progress : Progress}
    {diagnostic : Diagnostic} (fails : Fails context node progress diagnostic) :
    diagnostic.kindName = "Runtime Error" := by
  obtain ⟨_, _, rfl⟩ := fails.exists_fault
  rfl

/-!
### Submissions

A submission without a tree leaves the environment alone. One with a tree leaves
what the nodes before the failing one have bound, which is what the run over the
nodes says of a failing evaluation; that run binds names in the middle of an
expression as well as at its end.
-/

/-- A source without a tree is not evaluated. -/
theorem run_of_ofSource_error {source : Source} {diagnostic : Diagnostic}
    (failed : Expr.ofSource source = .error diagnostic) (environment : Environment) :
    (run source environment).outcome = .error diagnostic ∧
      (run source environment).environment = environment := by
  unfold Expr.ofSource at failed
  unfold run
  cases tokenized : source.tokens with
  | error fault =>
      rw [tokenized] at failed
      cases failed
      exact ⟨rfl, rfl⟩
  | ok tokens =>
      rw [tokenized] at failed
      dsimp only at failed ⊢
      rw [failed]
      exact ⟨rfl, rfl⟩

/-- A source with a tree comes to what its tree comes to. -/
theorem run_of_ofSource_ok {source : Source} {tree : Expr}
    (parsed : Expr.ofSource source = .ok tree) (environment : Environment) :
    (run source environment).outcome = (evaluate .program tree { environment }).1 ∧
      (run source environment).environment =
        (evaluate .program tree { environment }).2.environment := by
  unfold Expr.ofSource at parsed
  unfold run
  cases tokenized : source.tokens with
  | error fault =>
      rw [tokenized] at parsed
      cases parsed
  | ok tokens =>
      rw [tokenized] at parsed
      dsimp only at parsed ⊢
      rw [parsed]
      exact ⟨rfl, rfl⟩

/-- A failed submission leaves what it had bound. A lexical or syntax fault
    leaves the bindings as they were. A fault of evaluation is met at a node of
    the tree; the bindings then are those before the submission and, bound over
    them one after the other, those of the binding nodes that come before it in
    post-order, each name bound to a number that is placed at its whole binding. -/
theorem environment_of_failed_run {source : Source} {environment : Environment}
    {diagnostic : Diagnostic}
    (failed : (run source environment).outcome = .error diagnostic) :
    (diagnostic.kindName ≠ "Runtime Error" →
      (run source environment).environment = environment) ∧
      (diagnostic.kindName = "Runtime Error" →
        ∃ tree before node after operands bindings,
          Expr.ofSource source = .ok tree ∧ tree.postorder = before ++ node :: after ∧
          PerformsAll .program before ⟨[], environment⟩
            ⟨operands, (run source environment).environment⟩ ∧
          Fails .program node
            ⟨operands, (run source environment).environment⟩ diagnostic ∧
          (run source environment).environment = environment.bindAll bindings ∧
          bindings.map (fun binding => (binding.1, binding.2.span?)) =
            before.filterMap Expr.binding?) := by
  cases parsed : Expr.ofSource source with
  | error fault =>
      obtain ⟨outcome, unchanged⟩ := run_of_ofSource_error parsed environment
      rw [outcome] at failed
      cases failed
      exact ⟨fun _ => unchanged,
        fun isRuntime => absurd isRuntime (kindName_of_ofSource parsed)⟩
  | ok tree =>
      obtain ⟨outcome, left⟩ := run_of_ofSource_ok parsed environment
      rw [outcome] at failed
      obtain ⟨operands, before, node, after, nodes, done, fails⟩ :=
        evaluate_error failed []
      obtain ⟨bindings, bound, places⟩ := done.exists_bindings
      rw [← left] at done fails bound
      refine ⟨fun notRuntime => absurd fails.kindName notRuntime, fun _ => ?_⟩
      exact ⟨tree, before, node, after, operands, bindings, rfl, nodes, done,
        fails, bound, places⟩

/-- A binding in brackets is made before the name after it is looked up. -/
def bindingThenUnknown : Source :=
  { label := "<test>", content := "(let x = 1) + y" }

/-- What `bindingThenUnknown` fails with: the name after the brackets is
    unknown. -/
def unknownAfterBinding : Diagnostic :=
  .runtime (.unknownName "y") ⟨⟨14, 0, 14⟩, ⟨15, 0, 15⟩, bindingThenUnknown⟩
    [⟨"<test>", 1, "<program>"⟩]

theorem environment_of_failed_run_of_unknown_name :
    (run bindingThenUnknown .empty).outcome = .error unknownAfterBinding ∧
      ∃ tree before node after bindings,
        Expr.ofSource bindingThenUnknown = .ok tree ∧
        tree.postorder = before ++ node :: after ∧
        (run bindingThenUnknown .empty).environment =
          Environment.empty.bindAll bindings ∧
        bindings.map (fun binding => (binding.1, binding.2.span?)) =
          before.filterMap Expr.binding? := by
  have failed : (run bindingThenUnknown .empty).outcome =
      .error unknownAfterBinding := by decide +kernel
  obtain ⟨tree, before, node, after, _, bindings, parsed, nodes, _, _, bound, places⟩ :=
    (environment_of_failed_run failed).2 rfl
  exact ⟨failed, tree, before, node, after, bindings, parsed, nodes, bound, places⟩

/-- A submission that fails may change the bindings. -/
theorem binding_survives_failed_run :
    (run bindingThenUnknown .empty).outcome = .error unknownAfterBinding ∧
      (run bindingThenUnknown .empty).environment ≠ .empty := by
  constructor <;> decide +kernel

end Abacus
