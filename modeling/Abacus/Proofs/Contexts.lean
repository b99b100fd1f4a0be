/-
Module: Abacus.Proofs.Contexts
Purpose: What the context of an evaluation has to do with it. Evaluation hands
  its context on as it is and looks at it only to report a fault, so in any two
  contexts it does the same and comes to the same number or to the same fault at
  the same place (`evaluate_metIn`). What tells the contexts apart is the
  traceback: it goes through them from the inside out, and the frame of a
  context shows where the context inside it was entered
  (`Context.traces_traceback`).
Main exports: Context.outward, Context.Traces, Context.traces_traceback,
  Diagnostic.metIn, evaluate_metIn, evaluate_in_contexts
-/
import Abacus.Proofs.FailedRun

namespace Abacus

/-!
### Contexts from the inside out

A context and those around it as a list, so that the frames of a traceback can
be compared with it one by one. A frame names a context and shows where the next
one inside was entered, which is why the traced place moves outward by one as
well.
-/

namespace Context

/-- The name of the context itself. -/
def name : Context → String
  | .root name | .nested name _ _ => name

/-- Where the context was entered. The outermost one is not entered from
    anywhere. -/
def entry? : Context → Option Span
  | .root _ => none
  | .nested _ entry _ => some entry

/-- The context and those around it, from the inside out. -/
def outward : Context → List Context
  | context@(.root _) => [context]
  | context@(.nested _ _ caller) => context :: caller.outward

/-- The frames trace a fault at `span` outward. There is one for each context.
    The first shows the fault and names the innermost context; each later one
    shows where a context was entered and names the context around that. -/
structure Traces (context : Context) (span : Span) (frames : List Frame) : Prop where
  length_eq : frames.length = context.outward.length
  innermost : frames[0]? =
    some
      { label := span.source.label
        line := span.start.line + 1
        context := context.name }
  onward : ∀ i inner outer, context.outward[i]? = some inner →
    context.outward[i + 1]? = some outer →
    ∃ entry, inner.entry? = some entry ∧ frames[i + 1]? =
      some
        { label := entry.source.label
          line := entry.start.line + 1
          context := outer.name }

/-- The context itself is the innermost one. -/
theorem getElem?_outward_zero (context : Context) :
    context.outward[0]? = some context := by
  cases context <;> rfl

/-- A traceback traces a fault through all the contexts there are. By induction
    on the contexts: the frames behind the first trace the span that the
    innermost one was entered from, in the context around it. -/
theorem traces_traceback (context : Context) (span : Span) :
    context.Traces span (context.traceback span) := by
  induction context generalizing span with
  | root name =>
      refine ⟨rfl, rfl, ?_⟩
      intro i inner outer _ further
      cases further
  | nested name entry caller inductionHypothesis =>
      have around := inductionHypothesis entry
      refine ⟨congrArg Nat.succ around.length_eq, rfl, ?_⟩
      intro i inner outer here further
      cases i with
      | zero =>
          cases here
          cases caller.getElem?_outward_zero.symm.trans further
          exact ⟨entry, rfl, around.innermost⟩
      | succ i => exact around.onward i inner outer here further

end Context

/-!
### The same evaluation in another context

Evaluation in another context is the evaluation with its diagnostics met there
(`Diagnostic.metIn`), which changes the traceback and nothing else of them. One
lemma for each sort of node, then an induction on the tree; message and span are
read off the diagnostic afterwards.
-/

/-- The same fault met in another context. Only faults of evaluation are met in
    one. -/
def Diagnostic.metIn (other : Context) : Diagnostic → Diagnostic
  | .runtime fault span _ => other.fault fault span
  | diagnostic => diagnostic

section

variable (other : Context)

@[simp] theorem Diagnostic.message_metIn (diagnostic : Diagnostic) :
    (diagnostic.metIn other).message = diagnostic.message := by
  cases diagnostic <;> rfl

@[simp] theorem Diagnostic.span_metIn (diagnostic : Diagnostic) :
    (diagnostic.metIn other).span = diagnostic.span := by
  cases diagnostic <;> rfl

variable (context : Context)

theorem literalNumber_metIn (literal : Token) :
    literalNumber other literal =
      (literalNumber context literal).mapError (Diagnostic.metIn other) := by
  unfold literalNumber
  split <;> rfl

theorem lookUp_metIn (environment : Environment) (name : Token) :
    lookUp other environment name =
      (lookUp context environment name).mapError (Diagnostic.metIn other) := by
  unfold lookUp
  split <;> rfl

theorem applyOperator_metIn (op : Token) (x y : Number) (span : Span) :
    applyOperator other op x y span =
      (applyOperator context op x y span).mapError (Diagnostic.metIn other) := by
  unfold applyOperator
  split
  case h_1 => rfl
  case h_2 => split <;> rfl

/-- In another context an evaluation changes the same and comes to the same
    number, or meets the same fault there. By induction on the tree: every
    operand is evaluated in the context that was handed in. -/
theorem evaluate_metIn (e : Expr) (machine : Machine) :
    evaluate other e machine =
      ((evaluate context e machine).1.mapError (Diagnostic.metIn other),
        (evaluate context e machine).2) := by
  induction e generalizing machine with
  | number literal =>
      exact congrArg (·, machine) (literalNumber_metIn other context literal)
  | access name =>
      exact congrArg (·, machine) (lookUp_metIn other context machine.environment name)
  | unary op operand span inner =>
      rw [evaluate, evaluate, inner]
      rcases evaluate context operand machine with ⟨diagnostic | x, after⟩
      · rfl
      · rfl
  | binary op left right span inLeft inRight =>
      rw [evaluate, evaluate, inLeft]
      rcases evaluate context left machine with ⟨diagnostic | x, middle⟩
      · rfl
      · dsimp only [Except.mapError]
        rw [inRight]
        rcases evaluate context right middle with ⟨diagnostic | y, last⟩
        · rfl
        · dsimp only [Except.mapError]
          rw [applyOperator_metIn other context]
          cases applyOperator context op x y span with
          | error diagnostic => rfl
          | ok result => rfl
  | assign name value span inner =>
      rw [evaluate, evaluate, inner]
      rcases evaluate context value machine with ⟨diagnostic | x, after⟩
      · rfl
      · rfl

end

/-- A fault is traced through the contexts that the evaluation took place in. -/
theorem traces_of_evaluate {context : Context} {e : Expr} {machine : Machine}
    {diagnostic : Diagnostic}
    (failed : (evaluate context e machine).1 = .error diagnostic) :
    context.Traces diagnostic.span diagnostic.traceback := by
  obtain ⟨_, _, _, _, _, _, fails⟩ := evaluate_error failed []
  obtain ⟨fault, span, rfl⟩ := fails.exists_fault
  exact context.traces_traceback span

/-- The context makes no difference to an evaluation but in its tracebacks. In
    two contexts it leaves the same bindings and the same journal and comes to
    the same number, or to diagnostics with the same message and the same span;
    and each of these traces the fault outward through the contexts of its own
    evaluation. -/
theorem evaluate_in_contexts (context other : Context) (e : Expr) (machine : Machine) :
    (evaluate other e machine).2 = (evaluate context e machine).2 ∧
      (∀ x, (evaluate other e machine).1 = .ok x ↔
        (evaluate context e machine).1 = .ok x) ∧
      ∀ diagnostic, (evaluate context e machine).1 = .error diagnostic →
        context.Traces diagnostic.span diagnostic.traceback ∧
        ∃ same, (evaluate other e machine).1 = .error same ∧
          same.message = diagnostic.message ∧
          same.span = diagnostic.span ∧ other.Traces same.span same.traceback := by
  have moved := evaluate_metIn other context e machine
  refine ⟨by rw [moved], fun x => ?_, fun diagnostic failed => ?_⟩
  · rw [moved]
    cases (evaluate context e machine).1 with
    | ok y => simp [Except.mapError]
    | error diagnostic => simp [Except.mapError]
  · have failedThere :
        (evaluate other e machine).1 = .error (diagnostic.metIn other) := by
      rw [moved, failed]
      rfl
    refine ⟨traces_of_evaluate failed, _, failedThere, ?_, ?_,
      traces_of_evaluate failedThere⟩
    · exact diagnostic.message_metIn other
    · exact diagnostic.span_metIn other

/-- A name on the third line of a library. -/
def nameInLibrary : Token :=
  let library : Source := { label := "library.ab", content := "1\n2\n 3 + y" }
  { kind := .identifier
    payload? := some (.text "y")
    span := ⟨⟨9, 2, 5⟩, ⟨10, 2, 6⟩, library⟩ }

/-- A context inside another one. Both were entered on lines of a script, the
    inner one from the second line and the outer one from the first. -/
def enteredTwice : Context :=
  let script : Source := { label := "script.ab", content := "f\ng" }
  .nested "inner" ⟨⟨2, 1, 0⟩, ⟨3, 1, 1⟩, script⟩
    (.nested "outer" ⟨⟨0, 0, 0⟩, ⟨1, 0, 1⟩, script⟩ .program)

/-- An unknown name is reported at the same place in a program and two contexts
    further in, where there are three frames. -/
theorem evaluate_in_contexts_of_unknown_name :
    let diagnostic : Diagnostic := .runtime (.unknownName "y") nameInLibrary.span
      [⟨"library.ab", 3, "inner"⟩, ⟨"script.ab", 2, "outer"⟩,
        ⟨"script.ab", 1, "<program>"⟩]
    (evaluate enteredTwice (.access nameInLibrary) {}).1 = .error diagnostic ∧
      enteredTwice.Traces nameInLibrary.span diagnostic.traceback ∧
      ∃ same, (evaluate .program (.access nameInLibrary) {}).1 = .error same ∧
        same.message = "unknown identifier 'y'" ∧ same.span = nameInLibrary.span := by
  intro diagnostic
  have failed : (evaluate enteredTwice (.access nameInLibrary) {}).1 =
      .error diagnostic := by decide
  obtain ⟨traced, same, failedThere, message, points, _⟩ :=
    (evaluate_in_contexts enteredTwice .program (.access nameInLibrary) {}).2.2
      diagnostic failed
  exact ⟨failed, traced, same, failedThere, message, points⟩

end Abacus
