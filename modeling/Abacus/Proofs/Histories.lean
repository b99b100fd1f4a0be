/-
Module: Abacus.Proofs.Histories
Purpose: What names mean in the course of a session. Every open scope has a
  history: the bindings that the session or its submissions made in it, and the
  removals, since it was opened. A name means what its latest binding that has
  not been removed says, in the nearest scope whose history has one
  (`environment_follows_histories`). Whatever is done between entering a scope
  and leaving it again, the session is as it was before.
Main exports: Write, latest?, Ledger, Session.writes, Ledger.record,
  Ledger.Describes, Balanced, Session.perform_of_stays,
  Session.performAll_balanced, environment_follows_histories
-/
import Abacus.Proofs.Bindings
import Abacus.Proofs.FailedRun
import Abacus.Session
import Mathlib.Data.Finset.Card

namespace Abacus

/-!
### Histories

What is written down in the course of a session: one history for each open
scope. A command is noted by the changes that it makes in the innermost scope,
and by what it does to the nest of scopes.
-/

/-- A change of a scope. -/
inductive Write where
  | bound (name : String) (x : Number)
  | removed (name : String)
deriving DecidableEq, Repr, Inhabited

/-- The changes of a scope since it was opened, the latest first. -/
abbrev History := List Write

/-- The number that a name is bound to: what the latest change of the name says. -/
def latest? (name : String) : History → Option Number
  | [] => none
  | .bound other x :: earlier =>
      if other = name then some x else latest? name earlier
  | .removed other :: earlier => if other = name then none else latest? name earlier

/-- The histories of the open scopes: that of the innermost one, and those
    around it from the inside out. -/
structure Ledger where
  current : History := []
  outer : List History := []
deriving DecidableEq, Repr, Inhabited

/-- The histories from the inside out. -/
def Ledger.histories (ledger : Ledger) : List History :=
  ledger.current :: ledger.outer

/-- What a source binds, in the order of the bindings; nothing if it has no
    tree. -/
def Source.bindings (context : Context) (environment : Environment)
    (source : Source) : List (String × Number) :=
  match Expr.ofSource source with
  | .ok tree => tree.bindings context environment
  | .error _ => []

namespace Session

/-- Whether the command stays in the scope it is given in. -/
def Command.stays : Command → Bool
  | .push .. | .pop => false
  | .run _ | .evaluate _ | .get _ | .set .. | .remove _ | .contains
    _ | .outerSize | .raise .. => true

/-- The changes that a command makes in the innermost scope, in their order. -/
def writes (session : Session) : Command → List Write
  | .run source =>
      (source.bindings .program session.environment).map fun (name, x) => .bound name x
  | .evaluate source =>
      (source.bindings session.context session.environment).map fun (name, x) =>
        .bound name x
  | .set name value => [.bound name { value }]
  | .remove name => [.removed name]
  | .get _ | .contains _ | .outerSize | .raise .. | .push .. | .pop => []

end Session

/-- The histories after a command. An entered scope has none yet, and with a
    scope that is left goes its history; the outermost scope is not left. -/
def Ledger.record (ledger : Ledger) (session : Session) : Session.Command → Ledger
  | .push .. => { current := [], outer := ledger.histories }
  | .pop =>
      match ledger.outer with
      | [] => ledger
      | current :: outer => { current, outer }
  | command =>
      { ledger with current := (session.writes command).reverse ++ ledger.current }

/-- The histories after a list of commands. -/
def Ledger.recordAll (ledger : Ledger) (session : Session) :
    List Session.Command → Ledger
  | [] => ledger
  | command :: commands =>
      (ledger.record session command).recordAll (session.perform command).2 commands

/-!
### What commands change

Submissions, evaluations in the current context and writes to the environment
all make a list of changes in the innermost scope and nothing else; commands
that only ask make none. What is left are the two commands that enter and leave
a scope.
-/

/-- Makes a change. -/
def Scope.write (scope : Scope) : Write → Scope
  | .bound name x => scope.set name x
  | .removed name => scope.remove name

/-- Makes changes one after the other. -/
def Scope.writeAll (scope : Scope) (writes : List Write) : Scope :=
  writes.foldl Scope.write scope

theorem Scope.writeAll_bound (scope : Scope) (bindings : List (String × Number)) :
    scope.writeAll (bindings.map fun (name, x) => .bound name x) =
      scope.setAll bindings :=
  List.foldl_map

/-- A submission makes the bindings of its source, whatever it comes to. -/
theorem run_environment (source : Source) (environment : Environment) :
    (run source environment).environment =
      environment.bindAll (source.bindings .program environment) := by
  unfold Source.bindings
  cases parsed : Expr.ofSource source with
  | error diagnostic => exact (run_of_ofSource_error parsed environment).2
  | ok tree =>
      exact (run_of_ofSource_ok parsed environment).2.trans
        (evaluate_environment .program tree environment)

namespace Session

/-- Evaluating a source in the current context makes its bindings, whatever it
    comes to. -/
theorem evaluateSource_environment (session : Session) (source : Source) :
    (session.evaluateSource source).2 =
      session.environment.bindAll
        (source.bindings session.context session.environment) := by
  unfold evaluateSource Source.bindings
  cases Expr.ofSource source with
  | error diagnostic => rfl
  | ok tree => exact evaluate_environment session.context tree session.environment

/-- A command that stays in its scope makes its changes in the innermost scope
    and no others. -/
theorem perform_of_stays (session : Session) {command : Command}
    (stays : command.stays = true) :
    (session.perform command).2 =
      { session with
        environment :=
          { session.environment with
            scope := session.environment.scope.writeAll (session.writes command) } } := by
  cases command with
  | run source =>
      rw [writes, Scope.writeAll_bound, ← Environment.bindAll_eq, ← run_environment]
      rfl
  | evaluate source =>
      rw [writes,
        Scope.writeAll_bound, ← Environment.bindAll_eq, ← evaluateSource_environment]
      rfl
  | get name => rfl
  | set name value => rfl
  | remove name => rfl
  | contains name => rfl
  | outerSize => rfl
  | raise message span => rfl
  | push name entry => cases stays
  | pop => cases stays

/-- Commands are carried out one after the other. -/
theorem performAll_append (session : Session) (first second : List Command) :
    (session.performAll (first ++ second)).2 =
      ((session.performAll first).2.performAll second).2 := by
  induction first generalizing session with
  | nil => rfl
  | cons command first inductionHypothesis =>
      exact inductionHypothesis (session.perform command).2

end Session

/-!
### Scopes and their histories

The invariant of a session: every open scope binds what its history says. A
command keeps it (`Ledger.Describes.perform`), by one lemma for each way in
which a command can act on the nest of scopes, and a list of commands keeps it
by induction.
-/

/-- The scope binds what its history says. -/
def History.Describes (history : History) (scope : Scope) : Prop :=
  ∀ name, scope.get? name = latest? name history

namespace History.Describes

variable {history : History} {scope : Scope}

/-- A change keeps a scope and its history together. -/
theorem write (describes : history.Describes scope) (change : Write) :
    History.Describes (change :: history) (scope.write change) := by
  intro name
  cases change with
  | bound other x =>
      rw [Scope.write, Scope.get?_set, latest?, describes name]
      simp only [eq_comm]
  | removed other =>
      rw [Scope.write, Scope.get?_remove, latest?, describes name]
      simp only [eq_comm]

theorem writeAll (describes : history.Describes scope) (changes : List Write) :
    History.Describes (changes.reverse ++ history) (scope.writeAll changes) := by
  induction changes generalizing history scope with
  | nil => exact describes
  | cons change changes inductionHypothesis =>
      rw [List.reverse_cons, List.append_assoc]
      exact inductionHypothesis (describes.write change)

end History.Describes

/-- How many contexts a context is nested in. -/
def Context.depth : Context → Nat
  | .root _ => 0
  | .nested _ _ caller => caller.depth + 1

/-- Every open scope binds what its history says, and there is a context for
    every scope. -/
structure Ledger.Describes (ledger : Ledger) (session : Session) : Prop where
  current : History.Describes ledger.current session.environment.scope
  outer : List.Forall₂ History.Describes ledger.outer session.environment.outer
  contexts : session.context.depth = session.environment.outer.length

namespace Ledger.Describes

variable {ledger : Ledger} {session : Session}

/-- A scope that is entered binds nothing. -/
theorem push (describes : ledger.Describes session) (name : String) (entry : Span) :
    (ledger.record session (.push name entry)).Describes
      (session.perform (.push name entry)).2 where
  current := fun _ => rfl
  outer := .cons describes.current describes.outer
  contexts := congrArg (· + 1) describes.contexts

/-- A scope that is left uncovers the one around it. -/
theorem pop (describes : ledger.Describes session) :
    (ledger.record session .pop).Describes (session.perform .pop).2 := by
  obtain ⟨⟨scope, scopes⟩, context⟩ := session
  obtain ⟨current, outer⟩ := ledger
  obtain ⟨described, around, contexts⟩ := describes
  cases around with
  | nil => exact ⟨described, .nil, contexts⟩
  | cons next further =>
      cases context with
      | root name => cases contexts
      | nested name entry caller => exact ⟨next, further, Nat.succ.inj contexts⟩

/-- A command keeps the scopes and their histories together. -/
theorem perform (describes : ledger.Describes session) (command : Session.Command) :
    (ledger.record session command).Describes (session.perform command).2 := by
  cases stays : command.stays with
  | true =>
      rw [session.perform_of_stays stays]
      have recorded : ledger.record session command =
          { ledger with
            current := (session.writes command).reverse ++ ledger.current } := by
        cases command with
        | push name entry => cases stays
        | pop => cases stays
        | _ => rfl
      rw [recorded]
      exact ⟨describes.current.writeAll _, describes.outer, describes.contexts⟩
  | false =>
      cases command with
      | push name entry => exact describes.push name entry
      | pop => exact describes.pop
      | _ => cases stays

/-- So does a list of commands. -/
theorem performAll (describes : ledger.Describes session)
    (commands : List Session.Command) :
    (ledger.recordAll session commands).Describes (session.performAll commands).2 := by
  induction commands generalizing ledger session with
  | nil => exact describes
  | cons command commands inductionHypothesis =>
      exact inductionHypothesis (describes.perform command)

/-- A name means what the nearest history says that has a binding of it. -/
theorem get?_eq (describes : ledger.Describes session) (name : String) :
    session.environment.get? name = ledger.histories.findSome? (latest? name) := by
  have around {histories : List History} {scopes : List Scope}
      (paired : List.Forall₂ History.Describes histories scopes) :
      scopes.findSome? (·.get? name) = histories.findSome? (latest? name) := by
    induction paired with
    | nil => rfl
    | cons described _ inductionHypothesis =>
        rw [List.findSome?_cons, List.findSome?_cons, described name, inductionHypothesis]
  exact around (.cons describes.current describes.outer)

end Ledger.Describes

/-- A session starts without a history. -/
theorem Ledger.describes_start (context : String) :
    Ledger.Describes {} (Session.start context) where
  current := fun _ => rfl
  outer := .nil
  contexts := rfl

/-!
### Entering and leaving scopes

Commands that are balanced reach the scopes outside at no point, so they leave
them as they were. The induction is on how the commands are balanced: a pair
around balanced commands gives back the scope that was entered from.
-/

/-- Every scope that the commands enter they also leave, and they leave no
    other. -/
inductive Balanced : List Session.Command → Prop where
  | nil : Balanced []
  | stay {command : Session.Command} {commands : List Session.Command}
      (stays : command.stays = true) (onward : Balanced commands) :
      Balanced (command :: commands)
  | scope {name : String} {entry : Span} {inside commands : List Session.Command}
      (within : Balanced inside) (onward : Balanced commands) :
      Balanced (.push name entry :: (inside ++ .pop :: commands))

/-- Leaving the scope that was entered gives back the session, if nothing but
    that scope was changed. -/
theorem Session.pop_push (session : Session) (name : String) (entry : Span)
    {commands : List Session.Command}
    (inside : ∃ scope, ((session.perform (.push name entry)).2.performAll commands).2 =
      { environment := { scope, outer := session.environment.scopes },
        context := .nested name entry session.context }) :
    (session.performAll (.push name entry :: (commands ++ [.pop]))).2 = session := by
  obtain ⟨scope, inside⟩ := inside
  change ((session.perform (.push name entry)).2.performAll (commands ++ [.pop])).2 =
    session
  rw [Session.performAll_append, inside]
  rfl

/-- Balanced commands change nothing but the innermost scope. -/
theorem Session.performAll_balanced {commands : List Session.Command}
    (balanced : Balanced commands) (session : Session) :
    ∃ scope, (session.performAll commands).2 =
      { environment := { scope, outer := session.environment.outer }
        context := session.context } := by
  induction balanced generalizing session with
  | nil => exact ⟨session.environment.scope, rfl⟩
  | @stay command commands stays _ inductionHypothesis =>
      obtain ⟨scope, after⟩ := inductionHypothesis (session.perform command).2
      refine ⟨scope, ?_⟩
      change ((session.perform command).2.performAll commands).2 = _
      rw [after, session.perform_of_stays stays]
  | @scope name entry inside commands _ _ withinKeeps onwardKeeps =>
      have restored := session.pop_push name entry
        (withinKeeps (session.perform (.push name entry)).2)
      obtain ⟨scope, after⟩ := onwardKeeps session
      refine ⟨scope, ?_⟩
      rw [List.append_cons, ← List.cons_append, Session.performAll_append,
        restored, after]

/-!
### Main statement

At the start no scope has a history, so the invariant holds, and it holds after
any commands. What a name means and how many names are bound can then be read
off the histories alone.
-/

theorem isSome_numberOf?_iff {name : String} {bindings : List (String × Number)} :
    (numberOf? name bindings).isSome ↔ name ∈ bindings.map Prod.fst := by
  induction bindings with
  | nil => simp [numberOf?]
  | cons binding bindings inductionHypothesis =>
      rw [numberOf?, List.map_cons, List.mem_cons, ← inductionHypothesis]
      by_cases same : binding.1 = name
      · simp [same]
      · simp [same, Ne.symm same]

/-- The size of a scope is the number of names that it binds. -/
theorem Scope.exists_names (scope : Scope) :
    ∃ names : Finset String, (∀ name, name ∈ names ↔ (scope.get? name).isSome) ∧
      names.card = scope.size := by
  refine ⟨(scope.bindings.map Prod.fst).toFinset, fun name => ?_, ?_⟩
  · rw [List.mem_toFinset]
    exact isSome_numberOf?_iff.symm
  · rw [List.toFinset_card_of_nodup scope.distinct, List.length_map]
    rfl

/-- At every point of a session a name means what the nearest history says that
    has a binding of it; the size of the environment is the number of names that
    the history of the innermost scope binds. And whatever is done between
    entering a scope and leaving it again, the session is as it was before. -/
theorem environment_follows_histories (context : String)
    (commands : List Session.Command) :
    let session := ((Session.start context).performAll commands).2
    let ledger := Ledger.recordAll {} (Session.start context) commands
    (∀ name, session.environment.get? name = ledger.histories.findSome? (latest? name)) ∧
      (∀ name, session.environment.contains name = true ↔
          ∃ x, session.environment.get? name = some x) ∧
      (∃ names : Finset String,
        (∀ name, name ∈ names ↔ ∃ x, latest? name ledger.current = some x) ∧
        session.environment.size = names.card) ∧
      (session.environment.isEmpty = true ↔ session.environment.size = 0) ∧
      ∀ name entry inside, Balanced inside →
        (session.performAll (.push name entry :: (inside ++ [.pop]))).2 = session := by
  intro session ledger
  have describes : ledger.Describes session :=
    (Ledger.describes_start context).performAll commands
  refine ⟨describes.get?_eq, ?_, ?_, ?_, ?_⟩
  · intro name
    exact Option.isSome_iff_exists
  · obtain ⟨names, bound, count⟩ := session.environment.scope.exists_names
    refine ⟨names, fun name => ?_, count.symm⟩
    rw [bound, describes.current name, Option.isSome_iff_exists]
  · exact List.isEmpty_iff_length_eq_zero
  · intro name entry inside balanced
    exact session.pop_push name entry (Session.performAll_balanced balanced _)

/-- A binding, a scope in it, and a submission there that binds the name anew
    before it fails. -/
def shadowingCommands : List Session.Command :=
  [.run { label := "<test>", content := "let x = 1" },
    .push "inner" (.point {} { label := "<test>", content := "let x = 1" }),
    .run { label := "<test>", content := "(let x = 2) + y" }]

theorem environment_follows_histories_of_shadowing :
    let session := ((Session.start "<session>").performAll shadowingCommands).2
    let entry : Span := .point {} { label := "<test>", content := "" }
    Balanced [.remove "x"] ∧
      (session.performAll (.push "innermost" entry :: ([.remove "x"] ++ [.pop]))).2 =
        session := by
  intro session entry
  have balanced : Balanced [.remove "x"] := .stay rfl .nil
  obtain ⟨_, _, _, _, restored⟩ :=
    environment_follows_histories "<session>" shadowingCommands
  exact ⟨balanced, restored "innermost" entry [.remove "x"] balanced⟩

end Abacus
