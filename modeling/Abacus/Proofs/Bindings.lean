/-
Module: Abacus.Proofs.Bindings
Purpose: What an evaluation binds. The journal notes every binding, and the
  environment afterwards is the one before with these bindings made one after
  the other in the innermost scope (`Travels.exists_events`). There is one for
  each binding node that was performed, and it binds the number that the value
  of the node came to; the nodes after a binding node meet it and those before
  do not (`bindings_of_evaluation`).
Main exports: Event.binding?, Expr.bindings, Scope.setAll,
  Environment.get?_bindAll, Travels.exists_events, ValueCameTo, BindsAlong,
  bindings_of_evaluation
-/
import Abacus.Proofs.PostOrder

namespace Abacus

/-!
### Bindings made one after the other

A list of bindings acts on a scope, and through its innermost scope on an
environment, by making them in their order. What a name means afterwards is
decided by the last binding of the name in the list, that is by the first one in
the reversed list, and by what it meant before if there is none.
-/

/-- Binds names one after the other. -/
def Scope.setAll (scope : Scope) (bindings : List (String × Number)) : Scope :=
  bindings.foldl (fun scope binding => scope.set binding.1 binding.2) scope

/-- A name means the number it was last bound to; one that was not bound keeps
    its meaning. -/
theorem Scope.get?_setAll (scope : Scope) (bindings : List (String × Number))
    (name : String) :
    (scope.setAll bindings).get? name =
      (bindings.reverse.lookup name).or (scope.get? name) := by
  induction bindings generalizing scope with
  | nil => rfl
  | cons binding bindings inductionHypothesis =>
      obtain ⟨other, x⟩ := binding
      have onward := inductionHypothesis (scope.set other x)
      rw [Scope.get?_set] at onward
      rw [List.reverse_cons, List.lookup_append, Option.or_assoc]
      refine onward.trans (congrArg _ ?_)
      by_cases same : name = other
      · rw [if_pos same, same, List.lookup_cons_self, Option.some_or]
      · rw [if_neg same, List.lookup_cons, beq_eq_false_iff_ne.mpr same]
        rfl

namespace Environment

@[simp] theorem bindAll_nil (environment : Environment) :
    environment.bindAll [] = environment := rfl

theorem bindAll_append (environment : Environment)
    (first second : List (String × Number)) :
    environment.bindAll (first ++ second) = (environment.bindAll first).bindAll second :=
  List.foldl_append

/-- Bindings are made in the innermost scope. -/
theorem bindAll_eq (environment : Environment) (bindings : List (String × Number)) :
    environment.bindAll bindings =
      { scope := environment.scope.setAll bindings, outer := environment.outer } := by
  induction bindings generalizing environment with
  | nil => rfl
  | cons binding bindings inductionHypothesis =>
      exact inductionHypothesis (environment.set binding.1 binding.2)

/-- A name means the number it was last bound to; one that was not bound keeps
    its meaning. -/
theorem get?_bindAll (environment : Environment)
    (bindings : List (String × Number)) (name : String) :
    (environment.bindAll bindings).get? name =
      (bindings.reverse.lookup name).or (environment.get? name) := by
  rw [bindAll_eq, get?_eq, get?_eq, Scope.get?_setAll, Option.or_assoc]

end Environment

/-!
### Bindings in the journal

A run over nodes makes the bindings that it notes, by one step lemma about a
node (`Performs.binding`) and an induction over the run. Since the journal only
grows, what it holds at a point of the run is the beginning of what it holds at
the end, cut off at the number of binding nodes before the point; so what a node
met is read off the journal at the end.
-/

/-- The binding that an event notes. -/
def Event.binding? : Event → Option (String × Number)
  | .bound name x => some (name, x)
  | .computed .. => none

/-- What evaluating the tree binds, in the order of the bindings. -/
def Expr.bindings (context : Context) (environment : Environment) (e : Expr) :
    List (String × Number) :=
  (evaluate context e { environment }).2.journal.filterMap Event.binding?

/-- How many of the nodes bind a name. -/
def bindingCount (nodes : List Expr) : Nat :=
  (nodes.filterMap Expr.binding?).length

variable {context : Context}

/-- A node makes the binding that it notes, and a binding node notes one under
    its name and at its place. -/
theorem Performs.binding {node : Expr} {start stop : Progress}
    (step : Performs context node start stop) :
    stop.environment =
        start.environment.bindAll
          ((node.events stop.operands).filterMap Event.binding?) ∧
      ((node.events stop.operands).filterMap Event.binding?).map
          (fun binding => (binding.1, binding.2.span?)) =
        node.binding?.toList := by
  cases step with
  | number carried => exact ⟨rfl, rfl⟩
  | access found => exact ⟨rfl, rfl⟩
  | unary => exact ⟨rfl, rfl⟩
  | binary computed => exact ⟨rfl, rfl⟩
  | assign => exact ⟨rfl, rfl⟩

/-- A run makes the bindings that it notes, and notes one for each binding node,
    in their order. -/
theorem Travels.exists_events {nodes : List Expr} {start stop : Station}
    (done : Travels context nodes start stop) :
    ∃ events, stop.machine.journal = start.machine.journal ++ events ∧
      stop.machine.environment =
        start.machine.environment.bindAll (events.filterMap Event.binding?) ∧
      (events.filterMap Event.binding?).map
          (fun binding => (binding.1, binding.2.span?)) =
        nodes.filterMap Expr.binding? := by
  induction done with
  | nil => exact ⟨[], by simp⟩
  | @cons node nodes start middle stop step noted _ inductionHypothesis =>
      obtain ⟨middleBound, place⟩ := step.binding
      obtain ⟨later, journal, stopBound, places⟩ := inductionHypothesis
      refine ⟨node.events middle.operands ++ later, ?_, ?_, ?_⟩
      · rw [journal, noted, List.append_assoc]
      · rw [stopBound, List.filterMap_append, Environment.bindAll_append]
        exact congrArg (Environment.bindAll · _) middleBound
      · rw [List.filterMap_append, List.map_append, places, List.filterMap_cons]
        refine (congrArg (· ++ _) place).trans ?_
        cases node.binding? <;> rfl

/-- The bindings that the journal of a station notes. -/
def Station.bindings (station : Station) : List (String × Number) :=
  station.machine.journal.filterMap Event.binding?

/-- A run with a blank journal at its start has made the bindings that its
    journal notes. -/
theorem Travels.bindings_eq {nodes : List Expr} {start stop : Station}
    (done : Travels context nodes start stop) (blank : start.machine.journal = []) :
    stop.progress.environment = start.machine.environment.bindAll stop.bindings ∧
      stop.bindings.map (fun binding => (binding.1, binding.2.span?)) =
        nodes.filterMap Expr.binding? := by
  obtain ⟨events, journal, bound, places⟩ := done.exists_events
  rw [blank, List.nil_append] at journal
  rw [Station.bindings, journal]
  exact ⟨bound, places⟩

theorem Travels.length_bindings {nodes : List Expr} {start stop : Station}
    (done : Travels context nodes start stop) (blank : start.machine.journal = []) :
    stop.bindings.length = bindingCount nodes := by
  rw [bindingCount, ← (done.bindings_eq blank).2, List.length_map]

/-- The bindings that a run notes after a point come after those that it has
    noted there. -/
theorem Travels.exists_bindings {nodes : List Expr} {middle stop : Station}
    (done : Travels context nodes middle stop) :
    ∃ later, stop.bindings = middle.bindings ++ later := by
  obtain ⟨events, journal, _, _⟩ := done.exists_events
  exact ⟨events.filterMap Event.binding?,
    by rw [Station.bindings, journal, List.filterMap_append]; rfl⟩

/-- What the first nodes of a run have bound is what the later nodes meet. -/
theorem Travels.met {before after : List Expr} {start stop : Station}
    (done : Travels context (before ++ after) start stop)
    (blank : start.machine.journal = []) :
    ∃ middle, Travels context before start middle ∧ Travels context after middle stop ∧
      middle.bindings = stop.bindings.take (bindingCount before) ∧
      middle.progress.environment =
        start.machine.environment.bindAll (stop.bindings.take (bindingCount before)) := by
  obtain ⟨middle, beforeDone, afterDone⟩ := done.exists_middle
  obtain ⟨later, appended⟩ := afterDone.exists_bindings
  have earlier : middle.bindings = stop.bindings.take (bindingCount before) := by
    rw [appended, ← beforeDone.length_bindings blank, List.take_left]
  exact ⟨middle, beforeDone, afterDone, earlier,
    earlier ▸ (beforeDone.bindings_eq blank).1⟩

/-!
### What the nodes bind and read

A binding node stands in the post-order right behind the nodes of its value. So
the number that it binds is the last one that was set aside, and that is the
number its value came to when it was evaluated by itself from there.
-/

/-- Of the nodes `before` a binding node, those before its value are performed
    first; then its value is evaluated and comes to `x`, the last number that is
    set aside. -/
def ValueCameTo (context : Context) (value : Expr) (before : List Expr)
    (start : Progress) (x : Number) (stop : Progress) : Prop :=
  ∃ earlier operands machine last, before = earlier ++ value.postorder ∧
    PerformsAll context earlier start ⟨operands, machine.environment⟩ ∧
    evaluate context value machine = (.ok x, last) ∧
    stop = ⟨x :: operands, last.environment⟩

/-- When it is the turn of a binding node its value has been evaluated. -/
theorem PerformsAll.valueCameTo {e value : Expr} {name : Token} {span : Span}
    {before after : List Expr} {start stop : Progress}
    (done : PerformsAll context before start stop)
    (nodes : e.postorder = before ++ .assign name value span :: after) :
    ∃ x, ValueCameTo context value before start x stop := by
  obtain ⟨earlier, same⟩ := Expr.exists_earlier nodes
  rw [Expr.postorder, ← List.append_assoc, List.append_cancel_right_eq] at same
  subst same
  obtain ⟨⟨operands, environment⟩, earlierDone, valueDone⟩ := done.exists_middle
  let machine : Machine := { environment }
  replace valueDone : PerformsAll context value.postorder
    ⟨operands, machine.environment⟩ stop := valueDone
  obtain ⟨x, outcome, rfl⟩ := performsAll_postorder_iff.mp valueDone
  exact ⟨x, earlier, operands, machine, _, rfl, earlierDone, Prod.ext outcome rfl, rfl⟩

/-- The nodes make these bindings over those of the environment, one for each
    binding node. Any node meets the bindings of the nodes before it and no
    others: a binding node binds its name to the number its value came to,
    placed at the whole node, and a name comes to the number that it means
    there. -/
structure BindsAlong (context : Context) (environment : Environment)
    (performed : List Expr) (bindings : List (String × Number)) : Prop where
  length_eq : bindings.length = bindingCount performed
  met : ∀ before after, performed = before ++ after → ∃ operands,
    PerformsAll context before ⟨[], environment⟩
      ⟨operands, environment.bindAll (bindings.take (bindingCount before))⟩
  made : ∀ before name value span after,
    performed = before ++ .assign name value span :: after →
    ∃ x operands, ValueCameTo context value before ⟨[], environment⟩ x
        ⟨x :: operands, environment.bindAll (bindings.take (bindingCount before))⟩ ∧
        bindings[bindingCount before]? = some (Expr.nameOf name, x.placedAt span)
  read : ∀ before name after, performed = before ++ .access name :: after →
    ∃ y operands, (environment.bindAll (bindings.take (bindingCount before))).get?
      (Expr.nameOf name) = some y ∧
      PerformsAll context (before ++ [.access name]) ⟨[], environment⟩
        ⟨y.placedAt name.span :: operands,
          environment.bindAll (bindings.take (bindingCount before))⟩

section

variable {e : Expr} {before after rest : List Expr} {name : Token}
    {environment : Environment} {stop : Station}

/-- A binding node that is performed binds the number that its value came to. -/
theorem Travels.made {value : Expr} {span : Span}
    (done : Travels context (before ++ .assign name value span :: after)
      ⟨[], { environment }⟩ stop)
    (nodes : e.postorder = before ++ .assign name value span :: (after ++ rest)) :
    ∃ x operands, ValueCameTo context value before ⟨[], environment⟩ x
        ⟨x :: operands, environment.bindAll (stop.bindings.take (bindingCount before))⟩ ∧
        stop.bindings[bindingCount before]? =
          some (Expr.nameOf name, x.placedAt span) := by
  obtain ⟨middle, beforeDone, onward, earlier, met⟩ := done.met rfl
  obtain ⟨x, cameTo⟩ := beforeDone.performsAll.valueCameTo nodes
  have reached := cameTo
  obtain ⟨_, operands, _, last, _, _, _, progress⟩ := reached
  cases onward with
  | @cons _ _ _ next _ step noted restDone =>
      obtain ⟨later, appended⟩ := restDone.exists_bindings
      rw [progress] at step cameTo met
      generalize nextProgress : next.progress = reached at step
      cases step
      have top : next.operands = x.placedAt span :: operands :=
        congrArg Progress.operands nextProgress
      have own : next.bindings =
          middle.bindings ++ [(Expr.nameOf name, x.placedAt span)] := by
        rw [Station.bindings, noted, top, List.filterMap_append]
        rfl
      refine ⟨x, operands, met ▸ cameTo, ?_⟩
      rw [appended, own, List.append_assoc, ← beforeDone.length_bindings rfl,
        List.getElem?_append_right (Nat.le_refl _), Nat.sub_self]
      rfl

/-- A name that is performed comes to the number that it means over the bindings
    of the nodes before it. -/
theorem Travels.read
    (done : Travels context (before ++ .access name :: after)
      ⟨[], { environment }⟩ stop) :
    ∃ y operands, (environment.bindAll (stop.bindings.take (bindingCount before))).get?
      (Expr.nameOf name) = some y ∧
      PerformsAll context (before ++ [.access name]) ⟨[], environment⟩
        ⟨y.placedAt name.span :: operands,
          environment.bindAll (stop.bindings.take (bindingCount before))⟩ := by
  obtain ⟨middle, beforeDone, onward, _, met⟩ := done.met rfl
  cases onward with
  | cons step _ _ =>
      have performed := beforeDone.performsAll.concat step
      generalize middle.progress = reached at step met
      generalize Station.progress _ = next at step performed
      cases step with
      | access found =>
          obtain ⟨y, means, rfl⟩ := lookUp_eq_ok_iff.mp found
          dsimp only at met
          subst met
          exact ⟨y, _, means, performed⟩

theorem Travels.bindsAlong {performed : List Expr}
    (done : Travels context performed ⟨[], { environment }⟩ stop)
    (nodes : e.postorder = performed ++ rest) :
    BindsAlong context environment performed stop.bindings where
  length_eq := done.length_bindings rfl
  met := by
    rintro before after rfl
    obtain ⟨middle, beforeDone, _, _, met⟩ := done.met rfl
    exact ⟨middle.operands, met ▸ beforeDone.performsAll⟩
  made := by
    rintro before name value span after rfl
    exact done.made (by simpa using nodes)
  read := by
    rintro before name after rfl
    exact done.read

end

/-!
### Where an evaluation ends

A run ends at one node only: what a node does is determined by the progress it
is met with, so no run gets past a node that another run has failed at. That is
why the failure of an operand, evaluated by itself, is the failure of the whole
tree, and leaves the same bindings.
-/

/-- The nodes of a tree are performed in post-order, all of them or those before
    the first that fails. -/
theorem exists_performed (context : Context) (e : Expr) (environment : Environment) :
    ∃ performed rest operands, e.postorder = performed ++ rest ∧
      Travels context performed ⟨[], { environment }⟩
        ⟨operands, (evaluate context e { environment }).2⟩ ∧
      (∀ x, (evaluate context e { environment }).1 = .ok x →
        rest = [] ∧ operands = [x]) ∧
      (∀ diagnostic, (evaluate context e { environment }).1 = .error diagnostic →
        ∃ node later, rest = node :: later ∧
          Fails context node
            ⟨operands, (evaluate context e { environment }).2.environment⟩
            diagnostic) := by
  have arrives :
      Arrives context e ⟨[], { environment }⟩ (evaluate context e { environment }) :=
    evaluate_arrives e ⟨[], { environment }⟩
  generalize evaluate context e { environment } = result at arrives ⊢
  obtain ⟨outcome, after⟩ := result
  cases outcome with
  | ok x =>
      refine ⟨e.postorder, [], [x], (List.append_nil _).symm, arrives, ?_, ?_⟩
      · rintro _ ⟨⟩
        exact ⟨rfl, rfl⟩
      · rintro _ ⟨⟩
  | error diagnostic =>
      obtain ⟨operands, performed, node, later, nodes, done, fails⟩ := arrives
      refine ⟨performed, node :: later, operands, nodes, done, ?_, ?_⟩
      · rintro _ ⟨⟩
      · rintro _ ⟨⟩
        exact ⟨node, later, rfl, fails⟩

theorem Fails.deterministic {node : Expr} {progress : Progress}
    {diagnostic diagnostic' : Diagnostic}
    (fails : Fails context node progress diagnostic)
    (fails' : Fails context node progress diagnostic') : diagnostic = diagnostic' := by
  cases fails with
  | number lacking =>
      cases fails' with
      | number lacking' => cases lacking.symm.trans lacking'; rfl
  | access unknown =>
      cases fails' with
      | access unknown' => cases unknown.symm.trans unknown'; rfl
  | binary refused =>
      cases fails' with
      | binary refused' => cases refused.symm.trans refused'; rfl

/-- A run does not get past a node that fails. -/
theorem PerformsAll.not_past {before later : List Expr} {node : Expr}
    {start stop stop' : Progress} {diagnostic : Diagnostic}
    (done : PerformsAll context before start stop)
    (fails : Fails context node stop diagnostic) :
    ¬ PerformsAll context (before ++ node :: later) start stop' := by
  intro past
  exact past.not_interrupted ⟨before, node, later, rfl, done, fails⟩

/-- A run ends at the first node that fails, and there is only one such node. -/
theorem PerformsAll.fails_unique {before before' after after' : List Expr}
    {node node' : Expr} {start stop stop' : Progress}
    {diagnostic diagnostic' : Diagnostic}
    (nodes : before ++ node :: after = before' ++ node' :: after')
    (done : PerformsAll context before start stop)
    (fails : Fails context node stop diagnostic)
    (done' : PerformsAll context before' start stop')
    (fails' : Fails context node' stop' diagnostic') :
    before = before' ∧ stop = stop' ∧ diagnostic = diagnostic' := by
  rcases append_eq_append_cons_cases nodes with ⟨between, rfl⟩ | ⟨between, rfl, same⟩
  · exact absurd done (done'.not_past fails')
  · cases between with
    | cons head between =>
        obtain ⟨rfl, _⟩ := List.cons.inj same
        exact absurd done' (done.not_past fails)
    | nil =>
        obtain ⟨rfl, _⟩ := List.cons.inj same
        rw [List.append_nil] at done' ⊢
        cases done.deterministic done'
        exact ⟨rfl, rfl, fails.deterministic fails'⟩

/-- The evaluation of a tree ends where the evaluation of an operand that is
    reached fails, with what that left. -/
theorem evaluate_of_operand_error {e operand : Expr} {earlier later : List Expr}
    {environment : Environment} {operands : List Number} {machine : Machine}
    {diagnostic : Diagnostic}
    (nodes : e.postorder = earlier ++ (operand.postorder ++ later))
    (reached : PerformsAll context earlier ⟨[], environment⟩
      ⟨operands, machine.environment⟩)
    (failed : (evaluate context operand machine).1 = .error diagnostic) :
    (evaluate context e { environment }).1 = .error diagnostic ∧
      (evaluate context e { environment }).2.environment =
        (evaluate context operand machine).2.environment := by
  obtain ⟨_, before, node, after, inside, beforeDone, fails⟩ :=
    evaluate_error failed operands
  have done := reached.append beforeDone
  have position : e.postorder = (earlier ++ before) ++ node :: (after ++ later) := by
    simp [nodes, inside]
  cases outcome : (evaluate context e { environment }).1 with
  | ok x =>
      have whole := evaluate_ok outcome []
      rw [position] at whole
      exact absurd whole (done.not_past fails)
  | error diagnostic' =>
      obtain ⟨_, before', node', after', position', done', fails'⟩ :=
        evaluate_error outcome []
      obtain ⟨_, stop, same⟩ :=
        done.fails_unique (position.symm.trans position') fails done' fails'
      exact ⟨congrArg _ same.symm, (congrArg Progress.environment stop).symm⟩

/-!
### The scope afterwards

What has been said of runs, said of scopes. Making bindings takes no name its
meaning and changes none but those bound, and the names that are bound are those
of binding nodes that were performed.
-/

/-- Bindings under other names do not change the meaning of a name. -/
theorem Scope.get?_setAll_of_not_mem {scope : Scope}
    {bindings : List (String × Number)} {name : String}
    (other : name ∉ bindings.map Prod.fst) :
    (scope.setAll bindings).get? name = scope.get? name := by
  have unbound : bindings.reverse.lookup name = none := by
    rw [List.lookup_eq_none_iff]
    intro binding member
    rw [List.mem_reverse] at member
    exact bne_iff_ne.mpr fun same =>
      other (List.mem_map.mpr ⟨binding, member, same.symm⟩)
  rw [Scope.get?_setAll, unbound, Option.none_or]

/-- No binding takes a name its meaning. -/
theorem Scope.isSome_get?_setAll {scope : Scope} (bindings : List (String × Number))
    {name : String} (bound : (scope.get? name).isSome) :
    ((scope.setAll bindings).get? name).isSome := by
  rw [Scope.get?_setAll, Option.isSome_or, bound, Bool.or_true]

/-- An evaluation makes its bindings one after the other. -/
theorem evaluate_environment (context : Context) (e : Expr)
    (environment : Environment) :
    (evaluate context e { environment }).2.environment =
      environment.bindAll (e.bindings context environment) := by
  obtain ⟨_, _, _, _, done, _, _⟩ := exists_performed context e environment
  exact (done.bindings_eq rfl).1

/-- Only names of performed binding nodes are bound. -/
theorem Travels.mem_names {environment : Environment} {stop : Station}
    {performed : List Expr} {name : String}
    (done : Travels context performed ⟨[], { environment }⟩ stop)
    (bound : name ∈ stop.bindings.map Prod.fst) :
    name ∈ (performed.filterMap Expr.binding?).map Prod.fst := by
  rw [← (done.bindings_eq rfl).2, List.map_map]
  exact bound

/-- What an evaluation leaves, whether it comes to a number or fails. The nodes
    of the tree are performed in post-order, all of them or those before the
    first that fails, and the innermost scope afterwards is the one before with
    the bindings of the performed nodes made one after the other. So no outer
    scope changes, no binding is lost, no name changes that no node binds, and a
    binding node whose value fails binds nothing. -/
theorem bindings_of_evaluation (context : Context) (e : Expr)
    (environment : Environment) :
    match evaluate context e { environment } with
    | (outcome, after) =>
        (∃ performed rest operands, e.postorder = performed ++ rest ∧
          PerformsAll context performed ⟨[], environment⟩ ⟨operands, after.environment⟩ ∧
          (∀ x, outcome = .ok x → rest = [] ∧ operands = [x]) ∧
          (∀ diagnostic, outcome = .error diagnostic →
            ∃ node later, rest = node :: later ∧
              Fails context node ⟨operands, after.environment⟩ diagnostic) ∧
          BindsAlong context environment performed (e.bindings context environment)) ∧
        after.environment.scope =
          environment.scope.setAll (e.bindings context environment) ∧
        after.environment.outer = environment.outer ∧
        (∀ name, after.environment.scope.get? name =
          ((e.bindings context environment).reverse.lookup name).or
            (environment.scope.get? name)) ∧
        (∀ name, (environment.scope.get? name).isSome →
          (after.environment.scope.get? name).isSome) ∧
        (∀ name, name ∉ (e.postorder.filterMap Expr.binding?).map Prod.fst →
          after.environment.scope.get? name = environment.scope.get? name) ∧
        (∀ earlier name value span later operands machine diagnostic,
          e.postorder = earlier ++ (value.postorder ++ .assign name value span :: later) →
          PerformsAll context earlier ⟨[], environment⟩ ⟨operands, machine.environment⟩ →
          (evaluate context value machine).1 = .error diagnostic →
          outcome = .error diagnostic ∧
            after.environment = (evaluate context value machine).2.environment) := by
  obtain ⟨performed, rest, operands, nodes, done, whole, halted⟩ :=
    exists_performed context e environment
  have bound := evaluate_environment context e environment
  rw [Environment.bindAll_eq] at bound
  have scope := congrArg Environment.scope bound
  have outer := congrArg Environment.outer bound
  dsimp only at scope outer ⊢
  refine ⟨⟨performed, rest, operands, nodes, done.performsAll, whole, halted,
    done.bindsAlong nodes⟩, scope, outer, ?_, ?_, ?_, ?_⟩
  · intro name
    rw [scope, Scope.get?_setAll]
  · intro name isBound
    rw [scope]
    exact Scope.isSome_get?_setAll _ isBound
  · intro name other
    rw [scope]
    refine Scope.get?_setAll_of_not_mem fun bound => other ?_
    rw [nodes, List.filterMap_append, List.map_append]
    exact List.mem_append_left _ (done.mem_names bound)
  · intro earlier name value span later operands machine diagnostic position
      reached failed
    exact evaluate_of_operand_error position reached failed

end Abacus
