/-
Module: Abacus.Proofs.PostOrder
Purpose: Evaluation node by node. The nodes of a tree in post-order, each after
  its operands and these from left to right, are steps of a machine that keeps
  the numbers of finished operands beside the bindings. A tree has a value if
  all of its nodes can be performed in this order (`evaluate_ok`), and otherwise
  evaluation ends at the first node that cannot, with the bindings that the
  nodes before it have made (`evaluate_error`). Only a binding node changes the
  bindings, so what an evaluation binds can be read off the nodes it performed.
  The journal goes along with the run (`Travels`), so it can be read off the
  journal as well.
Main exports: Expr.postorder, Progress, Performs, Fails, PerformsAll,
  Interrupted, Station, Travels, evaluate_arrives, evaluate_ok, evaluate_error,
  performsAll_postorder_iff, OperandsCameTo, Environment.bindAll,
  PerformsAll.exists_bindings
-/
import Abacus.Evaluation

namespace Abacus

/-- The nodes of the tree, each after its operands and these from left to right. -/
def Expr.postorder : Expr → List Expr
  | e@(.number _) | e@(.access _) => [e]
  | e@(.unary _ operand _) => operand.postorder ++ [e]
  | e@(.binary _ left right _) => left.postorder ++ right.postorder ++ [e]
  | e@(.assign _ value _) => value.postorder ++ [e]

/-- How far an evaluation has come: the numbers of the operands that are done
    but not yet used, the last one first, and the bindings. -/
structure Progress where
  operands : List Number
  environment : Environment
deriving DecidableEq, Repr, Inhabited

/-!
### Steps

A node takes the numbers of its operands from those that are set aside and
leaves its own in their place. What it does depends on these numbers and the
bindings only, which is what a progress consists of.
-/

section

variable (context : Context)

/-- The node is performed: it takes the numbers of its operands and leaves its
    own, and a binding node binds its name. -/
inductive Performs : Expr → Progress → Progress → Prop where
  | number {literal : Token} {x : Number} {operands : List Number}
      {environment : Environment} (carried : literalNumber context literal = .ok x) :
      Performs (.number literal) ⟨operands, environment⟩ ⟨x :: operands, environment⟩
  | access {name : Token} {x : Number} {operands : List Number}
      {environment : Environment} (found : lookUp context environment name = .ok x) :
      Performs (.access name) ⟨operands, environment⟩ ⟨x :: operands, environment⟩
  | unary {op : Token} {operand : Expr} {span : Span} {x : Number}
      {operands : List Number} {environment : Environment} :
      Performs (.unary op operand span) ⟨x :: operands, environment⟩
        ⟨applySign op x span :: operands, environment⟩
  | binary {op : Token} {left right : Expr} {span : Span} {x y result : Number}
      {operands : List Number} {environment : Environment}
      (computed : applyOperator context op x y span = .ok result) :
      Performs (.binary op left right span) ⟨y :: x :: operands, environment⟩
        ⟨result :: operands, environment⟩
  | assign {name : Token} {value : Expr} {span : Span} {x : Number}
      {operands : List Number} {environment : Environment} :
      Performs (.assign name value span) ⟨x :: operands, environment⟩
        ⟨x.placedAt span :: operands,
          environment.set (Expr.nameOf name) (x.placedAt span)⟩

/-- The node cannot be performed, for the reason that the diagnostic gives. -/
inductive Fails : Expr → Progress → Diagnostic → Prop where
  | number {literal : Token} {progress : Progress} {diagnostic : Diagnostic}
      (lacking : literalNumber context literal = .error diagnostic) :
      Fails (.number literal) progress diagnostic
  | access {name : Token} {progress : Progress} {diagnostic : Diagnostic}
      (unknown : lookUp context progress.environment name = .error diagnostic) :
      Fails (.access name) progress diagnostic
  | binary {op : Token} {left right : Expr} {span : Span} {x y : Number}
      {operands : List Number} {environment : Environment} {diagnostic : Diagnostic}
      (refused : applyOperator context op x y span = .error diagnostic) :
      Fails (.binary op left right span) ⟨y :: x :: operands, environment⟩ diagnostic

/-- The nodes are performed one after the other. -/
inductive PerformsAll : List Expr → Progress → Progress → Prop where
  | nil {progress : Progress} : PerformsAll [] progress progress
  | cons {node : Expr} {nodes : List Expr} {start middle stop : Progress}
      (first : Performs context node start middle)
      (rest : PerformsAll nodes middle stop) : PerformsAll (node :: nodes) start stop

/-- The nodes are performed up to one that fails. -/
def Interrupted (nodes : List Expr) (start stop : Progress)
    (diagnostic : Diagnostic) : Prop :=
  ∃ before node after, nodes = before ++ node :: after ∧
    PerformsAll context before start stop ∧
    Fails context node stop diagnostic

end

variable {context : Context}

theorem PerformsAll.append {first second : List Expr} {start middle stop : Progress}
    (firstDone : PerformsAll context first start middle)
    (secondDone : PerformsAll context second middle stop) :
    PerformsAll context (first ++ second) start stop := by
  induction firstDone with
  | nil => exact secondDone
  | cons step _ inductionHypothesis =>
      exact .cons step (inductionHypothesis secondDone)

/-- A last node is performed after all others. -/
theorem PerformsAll.concat {nodes : List Expr} {node : Expr}
    {start middle stop : Progress} (done : PerformsAll context nodes start middle)
    (step : Performs context node middle stop) :
    PerformsAll context (nodes ++ [node]) start stop :=
  done.append (.cons step .nil)

/-!
### Evaluation is a run over the nodes

The run keeps the journal as well: a binary node notes its result and a binding
node its binding.
-/

/-- A point of a run: the operands that are set aside, and the machine. -/
structure Station where
  operands : List Number
  machine : Machine
deriving DecidableEq, Repr, Inhabited

/-- How far the run has come. -/
def Station.progress (station : Station) : Progress :=
  ⟨station.operands, station.machine.environment⟩

/-- What a node notes once its number is the first of the operands. -/
def Expr.events (operands : List Number) : Expr → List Event
  | e@(.binary ..) => (operands.head?.map (.computed e)).toList
  | .assign name _ _ => (operands.head?.map (.bound (nameOf name))).toList
  | .number _ | .access _ | .unary .. => []

/-- The nodes are performed one after the other, and each notes what it does. -/
inductive Travels (context : Context) : List Expr → Station → Station → Prop where
  | nil {station : Station} : Travels context [] station station
  | cons {node : Expr} {nodes : List Expr} {start middle stop : Station}
      (step : Performs context node start.progress middle.progress)
      (noted : middle.machine.journal =
        start.machine.journal ++ node.events middle.operands)
      (rest : Travels context nodes middle stop) :
      Travels context (node :: nodes) start stop

/-- The nodes are performed up to one that fails. -/
def Halts (context : Context) (nodes : List Expr) (start stop : Station)
    (diagnostic : Diagnostic) : Prop :=
  ∃ before node after, nodes = before ++ node :: after ∧
    Travels context before start stop ∧
    Fails context node stop.progress diagnostic

theorem Travels.append {first second : List Expr} {start middle stop : Station}
    (firstDone : Travels context first start middle)
    (secondDone : Travels context second middle stop) :
    Travels context (first ++ second) start stop := by
  induction firstDone with
  | nil => exact secondDone
  | cons step noted _ inductionHypothesis =>
      exact .cons step noted (inductionHypothesis secondDone)

/-- A last node is performed after all others. -/
theorem Travels.concat {nodes : List Expr} {node : Expr}
    {start middle stop : Station} (done : Travels context nodes start middle)
    (step : Performs context node middle.progress stop.progress)
    (noted : stop.machine.journal =
      middle.machine.journal ++ node.events stop.operands) :
    Travels context (nodes ++ [node]) start stop :=
  done.append (.cons step noted .nil)

/-- A run over some nodes and then others has a point between the two. -/
theorem Travels.exists_middle {first second : List Expr} {start stop : Station}
    (done : Travels context (first ++ second) start stop) :
    ∃ middle, Travels context first start middle ∧
      Travels context second middle stop := by
  induction first generalizing start with
  | nil => exact ⟨start, .nil, done⟩
  | cons node first inductionHypothesis =>
      cases done with
      | cons step noted rest =>
          obtain ⟨middle, firstDone, secondDone⟩ := inductionHypothesis rest
          exact ⟨middle, .cons step noted firstDone, secondDone⟩

/-- Without its journal a run is one over the bindings alone. -/
theorem Travels.performsAll {nodes : List Expr} {start stop : Station}
    (done : Travels context nodes start stop) :
    PerformsAll context nodes start.progress stop.progress := by
  induction done with
  | nil => exact .nil
  | cons step _ _ inductionHypothesis => exact .cons step inductionHypothesis

/-- Nodes after the one that fails play no part. -/
theorem Halts.append {nodes : List Expr} {start stop : Station}
    {diagnostic : Diagnostic} (halts : Halts context nodes start stop diagnostic)
    (more : List Expr) : Halts context (nodes ++ more) start stop diagnostic := by
  obtain ⟨before, node, after, rfl, done, fails⟩ := halts
  exact ⟨before, node, after ++ more, by simp, done, fails⟩

/-- Nodes that were performed stand before the one that fails. -/
theorem Travels.halts {first second : List Expr} {start middle stop : Station}
    {diagnostic : Diagnostic} (done : Travels context first start middle)
    (halts : Halts context second middle stop diagnostic) :
    Halts context (first ++ second) start stop diagnostic := by
  obtain ⟨before, node, after, rfl, rest, fails⟩ := halts
  exact ⟨first ++ before, node, after, by simp, done.append rest, fails⟩

/-- A last node can fail after all others. -/
theorem Travels.fails {nodes : List Expr} {node : Expr} {start stop : Station}
    {diagnostic : Diagnostic} (done : Travels context nodes start stop)
    (fails : Fails context node stop.progress diagnostic) :
    Halts context (nodes ++ [node]) start stop diagnostic :=
  ⟨nodes, node, [], rfl, done, fails⟩

theorem Halts.interrupted {nodes : List Expr} {start stop : Station}
    {diagnostic : Diagnostic} (halts : Halts context nodes start stop diagnostic) :
    Interrupted context nodes start.progress stop.progress diagnostic := by
  obtain ⟨before, node, after, rfl, done, fails⟩ := halts
  exact ⟨before, node, after, rfl, done.performsAll, fails⟩

/-- What an evaluation came to, in terms of the nodes of the tree and the
    journal. -/
def Arrives (context : Context) (e : Expr) (start : Station) :
    Except Diagnostic Number × Machine → Prop
  | (.ok x, machine) =>
      Travels context e.postorder start ⟨x :: start.operands, machine⟩
  | (.error diagnostic, machine) =>
      ∃ operands, Halts context e.postorder start ⟨operands, machine⟩ diagnostic

/-- An operand that fails makes the nodes after it play no part. -/
theorem Arrives.halts {e : Expr} {start : Station} {diagnostic : Diagnostic}
    {machine : Machine}
    (arrives : Arrives context e start (.error diagnostic, machine))
    (more : List Expr) :
    ∃ operands,
      Halts context (e.postorder ++ more) start ⟨operands, machine⟩ diagnostic := by
  obtain ⟨operands, halts⟩ := arrives
  exact ⟨operands, halts.append more⟩

theorem arrives_number (literal : Token) (start : Station) :
    Arrives context (.number literal) start
      (evaluate context (.number literal) start.machine) := by
  cases carried : literalNumber context literal with
  | ok x =>
      rw [evaluate, carried]
      exact Travels.nil.concat (.number carried) (List.append_nil _).symm
  | error diagnostic =>
      rw [evaluate, carried]
      exact ⟨start.operands, Travels.nil.fails (.number carried)⟩

theorem arrives_access (name : Token) (start : Station) :
    Arrives context (.access name) start
      (evaluate context (.access name) start.machine) := by
  cases found : lookUp context start.machine.environment name with
  | ok x =>
      rw [evaluate, found]
      exact Travels.nil.concat (.access found) (List.append_nil _).symm
  | error diagnostic =>
      rw [evaluate, found]
      exact ⟨start.operands, Travels.nil.fails (.access found)⟩

section

variable {operand left right : Expr} {start : Station}

theorem arrives_unary (op : Token) (span : Span)
    (inner : Arrives context operand start (evaluate context operand start.machine)) :
    Arrives context (.unary op operand span) start
      (evaluate context (.unary op operand span) start.machine) := by
  rw [evaluate]
  generalize evaluate context operand start.machine = result at inner ⊢
  obtain ⟨outcome, machine⟩ := result
  cases outcome with
  | ok x => exact Travels.concat inner .unary (List.append_nil _).symm
  | error diagnostic => exact inner.halts _

theorem arrives_assign (name : Token) (span : Span)
    (inner : Arrives context operand start (evaluate context operand start.machine)) :
    Arrives context (.assign name operand span) start
      (evaluate context (.assign name operand span) start.machine) := by
  rw [evaluate]
  generalize evaluate context operand start.machine = result at inner ⊢
  obtain ⟨outcome, machine⟩ := result
  cases outcome with
  | ok x => exact Travels.concat inner .assign rfl
  | error diagnostic => exact inner.halts _

/-- The right operand starts from what the left one left, with the number of the
    left one set aside. -/
theorem arrives_binary (op : Token) (span : Span)
    (first : Arrives context left start (evaluate context left start.machine))
    (next : ∀ middle : Station,
      Arrives context right middle (evaluate context right middle.machine)) :
    Arrives context (.binary op left right span) start
      (evaluate context (.binary op left right span) start.machine) := by
  rw [evaluate]
  generalize evaluate context left start.machine = result at first ⊢
  obtain ⟨outcome, middle⟩ := result
  cases outcome with
  | error diagnostic =>
      obtain ⟨operands, halts⟩ := first.halts right.postorder
      exact ⟨operands, halts.append _⟩
  | ok x =>
      have second := next ⟨x :: start.operands, middle⟩
      dsimp only at second ⊢
      generalize evaluate context right middle = result at second ⊢
      obtain ⟨outcome, machine⟩ := result
      cases outcome with
      | error diagnostic =>
          obtain ⟨operands, halts⟩ := second
          exact ⟨operands, (Travels.halts first halts).append _⟩
      | ok y =>
          have both := Travels.append first second
          dsimp only
          cases computed : applyOperator context op x y span with
          | error diagnostic => exact ⟨_, both.fails (.binary computed)⟩
          | ok result => exact both.concat (.binary computed) rfl

end

/-- Evaluation performs the nodes of the tree in post-order, whatever operands
    are set aside. -/
theorem evaluate_arrives (e : Expr) (start : Station) :
    Arrives context e start (evaluate context e start.machine) := by
  induction e generalizing start with
  | number literal => exact arrives_number literal start
  | access name => exact arrives_access name start
  | unary op operand span operandArrives =>
      exact arrives_unary op span (operandArrives start)
  | binary op left right span leftArrives rightArrives =>
      exact arrives_binary op span (leftArrives start) rightArrives
  | assign name value span valueArrives =>
      exact arrives_assign name span (valueArrives start)

/-- What an evaluation came to, in terms of the nodes of the tree. -/
def Follows (context : Context) (e : Expr) (operands : List Number)
    (environment : Environment) : Except Diagnostic Number × Machine → Prop
  | (.ok x, machine) =>
      PerformsAll context e.postorder ⟨operands, environment⟩
        ⟨x :: operands, machine.environment⟩
  | (.error diagnostic, machine) =>
      ∃ operands', Interrupted context e.postorder ⟨operands, environment⟩
        ⟨operands', machine.environment⟩ diagnostic

theorem evaluate_follows (e : Expr) (machine : Machine) (operands : List Number) :
    Follows context e operands machine.environment (evaluate context e machine) := by
  have arrives : Arrives context e ⟨operands, machine⟩ (evaluate context e machine) :=
    evaluate_arrives e ⟨operands, machine⟩
  generalize evaluate context e machine = result at arrives ⊢
  obtain ⟨outcome, after⟩ := result
  cases outcome with
  | ok x => exact Travels.performsAll arrives
  | error diagnostic =>
      obtain ⟨operands', halts⟩ := arrives
      exact ⟨operands', halts.interrupted⟩

/-- A tree has a value if all of its nodes can be performed in post-order. -/
theorem evaluate_ok {e : Expr} {machine : Machine} {x : Number}
    (done : (evaluate context e machine).1 = .ok x) (operands : List Number) :
    PerformsAll context e.postorder ⟨operands, machine.environment⟩
      ⟨x :: operands, (evaluate context e machine).2.environment⟩ := by
  have follows :
      Follows context e operands machine.environment (evaluate context e machine) :=
    evaluate_follows e machine operands
  generalize evaluate context e machine = result at done follows ⊢
  obtain ⟨outcome, machine'⟩ := result
  cases done
  exact follows

/-- Evaluation fails at the first node that cannot be performed, with the
    bindings made before it. -/
theorem evaluate_error {e : Expr} {machine : Machine} {diagnostic : Diagnostic}
    (failed : (evaluate context e machine).1 = .error diagnostic)
    (operands : List Number) :
    ∃ operands', Interrupted context e.postorder ⟨operands, machine.environment⟩
      ⟨operands', (evaluate context e machine).2.environment⟩ diagnostic := by
  have follows :
      Follows context e operands machine.environment (evaluate context e machine) :=
    evaluate_follows e machine operands
  generalize evaluate context e machine = result at failed follows ⊢
  obtain ⟨outcome, machine'⟩ := result
  cases failed
  exact follows

/-!
### There is one course

What a node does, and whether it fails, is decided by the progress it is met
with. So a run over the nodes of a tree is the evaluation of the tree.
-/

theorem Performs.deterministic {node : Expr} {start stop stop' : Progress}
    (step : Performs context node start stop)
    (step' : Performs context node start stop') : stop = stop' := by
  cases step with
  | number carried =>
      cases step' with
      | number carried' => cases carried.symm.trans carried'; rfl
  | access found =>
      cases step' with
      | access found' => cases found.symm.trans found'; rfl
  | unary => cases step'; rfl
  | binary computed =>
      cases step' with
      | binary computed' => cases computed.symm.trans computed'; rfl
  | assign => cases step'; rfl

theorem Performs.not_fails {node : Expr} {start stop : Progress}
    {diagnostic : Diagnostic} (step : Performs context node start stop) :
    ¬ Fails context node start diagnostic := by
  intro fails
  cases step with
  | number carried =>
      cases fails with
      | number lacking => cases carried.symm.trans lacking
  | access found =>
      cases fails with
      | access unknown => cases found.symm.trans unknown
  | unary => cases fails
  | binary computed =>
      cases fails with
      | binary refused => cases computed.symm.trans refused
  | assign => cases fails

theorem PerformsAll.deterministic {nodes : List Expr}
    {start stop stop' : Progress} (done : PerformsAll context nodes start stop)
    (done' : PerformsAll context nodes start stop') : stop = stop' := by
  induction done with
  | nil => cases done'; rfl
  | cons first rest inductionHypothesis =>
      cases done' with
      | cons first' rest' =>
          cases first.deterministic first'
          exact inductionHypothesis rest'

/-- A run over some nodes and then others has a point between the two. -/
theorem PerformsAll.exists_middle {first second : List Expr} {start stop : Progress}
    (done : PerformsAll context (first ++ second) start stop) :
    ∃ middle, PerformsAll context first start middle ∧
      PerformsAll context second middle stop := by
  induction first generalizing start with
  | nil => exact ⟨start, .nil, done⟩
  | cons node first inductionHypothesis =>
      cases done with
      | cons step rest =>
          obtain ⟨middle, firstDone, secondDone⟩ := inductionHypothesis rest
          exact ⟨middle, .cons step firstDone, secondDone⟩

theorem PerformsAll.not_interrupted {nodes : List Expr} {start stop stop' : Progress}
    {diagnostic : Diagnostic} (done : PerformsAll context nodes start stop) :
    ¬ Interrupted context nodes start stop' diagnostic := by
  rintro ⟨before, node, after, rfl, beforeDone, fails⟩
  obtain ⟨middle, beforeDone', rest⟩ := done.exists_middle
  cases beforeDone.deterministic beforeDone'
  cases rest with
  | cons step _ => exact step.not_fails fails

/-- The nodes of a tree are performed in post-order exactly if the tree has a
    value, whose number they leave beside the operands that were set aside. -/
theorem performsAll_postorder_iff {e : Expr} {machine : Machine}
    {operands : List Number} {stop : Progress} :
    PerformsAll context e.postorder ⟨operands, machine.environment⟩ stop ↔
      ∃ x, (evaluate context e machine).1 = .ok x ∧
        stop = ⟨x :: operands, (evaluate context e machine).2.environment⟩ := by
  constructor
  · intro done
    cases outcome : (evaluate context e machine).1 with
    | ok x => exact ⟨x, rfl, done.deterministic (evaluate_ok outcome operands)⟩
    | error diagnostic =>
        obtain ⟨operands', interrupted⟩ := evaluate_error outcome operands
        exact absurd interrupted done.not_interrupted
  · rintro ⟨x, outcome, rfl⟩
    exact evaluate_ok outcome operands

/-!
### Nodes and the nodes below them

The post-order of a tree is that of its operands and then the root. So a node in
it is the root or stands in an operand, and right before it come the nodes below
it; the operands of a node have therefore been performed when it is its turn.
-/

/-- The node itself comes last. -/
theorem Expr.exists_postorder_eq (e : Expr) : ∃ below, e.postorder = below ++ [e] := by
  cases e with
  | number literal => exact ⟨[], rfl⟩
  | access name => exact ⟨[], rfl⟩
  | unary op operand span => exact ⟨_, rfl⟩
  | binary op left right span => exact ⟨_, rfl⟩
  | assign name value span => exact ⟨_, rfl⟩

theorem Expr.self_mem_postorder (e : Expr) : e ∈ e.postorder := by
  obtain ⟨below, nodes⟩ := e.exists_postorder_eq
  simp [nodes]

/-- A node of two lists on end stands in the first one, or in the second one
    behind all of the first. -/
theorem append_eq_append_cons_cases {first second before after : List Expr}
    {node : Expr} (nodes : first ++ second = before ++ node :: after) :
    (∃ after', first = before ++ node :: after') ∨
      ∃ before', before = first ++ before' ∧ second = before' ++ node :: after := by
  rcases List.append_eq_append_iff.mp nodes
    with ⟨between, rfl, rest⟩ | ⟨between, rfl, rest⟩
  · exact .inr ⟨between, rfl, rest⟩
  · cases between with
    | nil => exact .inr ⟨[], by simp, rest.symm⟩
    | cons head between =>
        obtain ⟨rfl, _⟩ := List.cons.inj rest
        exact .inl ⟨between, rfl⟩

/-- A node that does not stand below the root is the root. -/
theorem Expr.below_or_root {e node : Expr} {below before after : List Expr}
    (last : e.postorder = below ++ [e])
    (nodes : e.postorder = before ++ node :: after) :
    (∃ after', below = before ++ node :: after') ∨
      before ++ [node] = node.postorder := by
  rw [last] at nodes
  rcases append_eq_append_cons_cases nodes with inside | ⟨before', rfl, same⟩
  · exact .inl inside
  · cases before' with
    | nil =>
        obtain ⟨rfl, _⟩ := List.cons.inj same
        simp [last]
    | cons head before' => simp at same

/-- Right before a node come the nodes below it. -/
theorem Expr.exists_earlier {e node : Expr} {before after : List Expr}
    (nodes : e.postorder = before ++ node :: after) :
    ∃ earlier, before ++ [node] = earlier ++ node.postorder := by
  induction e generalizing before after with
  | number literal =>
      rcases below_or_root (List.nil_append _).symm nodes with ⟨_, inside⟩ | root
      · simp at inside
      · exact ⟨[], root⟩
  | access name =>
      rcases below_or_root (List.nil_append _).symm nodes with ⟨_, inside⟩ | root
      · simp at inside
      · exact ⟨[], root⟩
  | unary op operand span operandEarlier =>
      rcases below_or_root rfl nodes with ⟨_, inside⟩ | root
      · exact operandEarlier inside
      · exact ⟨[], root⟩
  | binary op left right span leftEarlier rightEarlier =>
      rcases below_or_root rfl nodes with ⟨_, inside⟩ | root
      · rcases append_eq_append_cons_cases inside
          with ⟨_, inLeft⟩ | ⟨before', rfl, inRight⟩
        · exact leftEarlier inLeft
        · obtain ⟨earlier, same⟩ := rightEarlier inRight
          exact ⟨left.postorder ++
              earlier, by rw [List.append_assoc, same, List.append_assoc]⟩
      · exact ⟨[], root⟩
  | assign name value span valueEarlier =>
      rcases below_or_root rfl nodes with ⟨_, inside⟩ | root
      · exact valueEarlier inside
      · exact ⟨[], root⟩

/-- Of the nodes `before` a binary node, those before its operands are performed
    first; then its operands are evaluated one after the other and come to `x`
    and `y`, the last numbers that are set aside. -/
def OperandsCameTo (context : Context) (left right : Expr) (before : List Expr)
    (start : Progress) (x y : Number) (stop : Progress) : Prop :=
  ∃ earlier operands machine middle last,
    before = earlier ++ (left.postorder ++ right.postorder) ∧
    PerformsAll context earlier start ⟨operands, machine.environment⟩ ∧
    evaluate context left machine = (.ok x, middle) ∧
    evaluate context right middle = (.ok y, last) ∧
    stop = ⟨y :: x :: operands, last.environment⟩

/-- When it is the turn of a binary node its operands have been evaluated. -/
theorem PerformsAll.operandsCameTo {e left right : Expr} {op : Token}
    {span : Span} {before after : List Expr} {start stop : Progress}
    (done : PerformsAll context before start stop)
    (nodes : e.postorder = before ++ .binary op left right span :: after) :
    ∃ x y, OperandsCameTo context left right before start x y stop := by
  obtain ⟨earlier, same⟩ := Expr.exists_earlier nodes
  rw [Expr.postorder, ← List.append_assoc, List.append_cancel_right_eq] at same
  subst same
  obtain ⟨⟨operands, environment⟩, earlierDone, operandsDone⟩ := done.exists_middle
  obtain ⟨between, leftDone, rightDone⟩ := operandsDone.exists_middle
  let machine : Machine := { environment }
  replace leftDone : PerformsAll context left.postorder
    ⟨operands, machine.environment⟩ between := leftDone
  obtain ⟨x, leftOutcome, rfl⟩ := performsAll_postorder_iff.mp leftDone
  obtain ⟨y, rightOutcome, rfl⟩ := performsAll_postorder_iff.mp rightDone
  exact ⟨x, y, earlier, operands, machine, _, _, rfl, earlierDone,
    Prod.ext leftOutcome rfl,
    Prod.ext rightOutcome rfl, rfl⟩

/-!
### Bindings

Only binding nodes change what names mean. A run over nodes makes one binding
for each of them, in their order, under the names that the nodes say.
-/

/-- Binds names one after the other. -/
def Environment.bindAll (environment : Environment)
    (bindings : List (String × Number)) : Environment :=
  bindings.foldl
    (fun environment binding => environment.set binding.1 binding.2) environment

/-- The name that a node binds, and the span that the bound number is placed at. -/
def Expr.binding? : Expr → Option (String × Option Span)
  | .assign name _ span => some (Expr.nameOf name, some span)
  | _ => none

/-- A node that is no binding leaves all names as they are, and a binding node
    binds its name. -/
theorem Performs.exists_binding {node : Expr} {start stop : Progress}
    (step : Performs context node start stop) :
    ∃ bindings, stop.environment = start.environment.bindAll bindings ∧
      bindings.map
        (fun binding => (binding.1, binding.2.span?)) = node.binding?.toList := by
  cases step with
  | number carried => exact ⟨[], rfl, rfl⟩
  | access found => exact ⟨[], rfl, rfl⟩
  | unary => exact ⟨[], rfl, rfl⟩
  | binary computed => exact ⟨[], rfl, rfl⟩
  | @assign name value span x operands environment =>
      exact ⟨[(Expr.nameOf name, x.placedAt span)], rfl, rfl⟩

/-- What a run over nodes changes are the names of its binding nodes, in their
    order. -/
theorem PerformsAll.exists_bindings {nodes : List Expr} {start stop : Progress}
    (done : PerformsAll context nodes start stop) :
    ∃ bindings, stop.environment = start.environment.bindAll bindings ∧
      bindings.map (fun binding => (binding.1, binding.2.span?)) =
        nodes.filterMap Expr.binding? := by
  induction done with
  | nil => exact ⟨[], rfl, rfl⟩
  | @cons node nodes start middle stop step _ inductionHypothesis =>
      obtain ⟨head, middleBound, headPlaces⟩ := step.exists_binding
      obtain ⟨tail, stopBound, tailPlaces⟩ := inductionHypothesis
      refine ⟨head ++ tail, ?_, ?_⟩
      · rw [stopBound, middleBound, Environment.bindAll, Environment.bindAll,
          Environment.bindAll, List.foldl_append]
      · rw [List.map_append, headPlaces, tailPlaces]
        cases places : node.binding? <;> simp [places]

end Abacus
