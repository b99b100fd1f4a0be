/-
Module: Abacus.Proofs.Coincidence
Purpose: What an evaluation reads of its environment: the values of the names in
  the tree and nothing else. How many scopes there are, which of them binds a
  name, what else is bound and where the numbers were computed plays no part.
  Two environments that agree on the names of the tree lead to one outcome and
  to the same bindings (`evaluate_reads_values`), so a nest of scopes can be
  replaced by a single one.
Main exports: Expr.reads, Environment.value?, Environment.AgreesOn,
  Environment.flattened, evaluate_agrees, evaluate_reads_values
-/
import Abacus.Proofs.Bindings
import Mathlib.Data.Set.Insert

namespace Abacus

/-- The names that the tree reads, from left to right. -/
def Expr.reads : Expr → List String
  | .number _ => []
  | .access name => [nameOf name]
  | .unary _ operand _ => operand.reads
  | .binary _ left right _ => left.reads ++ right.reads
  | .assign _ value _ => value.reads

/-!
### Environments that agree

Agreement is asked for values only: where a number was computed shows in no
outcome, since a name places what it reads where it stands. A name that was
bound in both environments agrees whatever it meant before, so agreement comes
back as evaluation goes on.
-/

namespace Environment

/-- The value that a name means, wherever it was computed. -/
def value? (environment : Environment) (name : String) : Option Value :=
  (environment.get? name).map Number.value

/-- The names mean the same values in both environments, or nothing in either. -/
def AgreesOn (names : Set String) (first second : Environment) : Prop :=
  ∀ name ∈ names, first.value? name = second.value? name

variable {names : Set String} {first second : Environment}

theorem value?_set (environment : Environment) (name other : String) (x : Number) :
    (environment.set name x).value? other =
      if other = name then some x.value else environment.value? other := by
  rw [value?, get?_set]
  split <;> rfl

/-- Environments that agree still do so when a name is bound to one number in
    both. -/
theorem AgreesOn.set (agree : AgreesOn names first second) (name : String)
    (x : Number) : AgreesOn names (first.set name x) (second.set name x) := by
  intro other member
  rw [value?_set, value?_set, agree other member]

/-- A name means the value it was last bound to; one that was not bound keeps
    its meaning. -/
theorem value?_bindAll (environment : Environment)
    (bindings : List (String × Number)) (name : String) :
    (environment.bindAll bindings).value? name =
      ((bindings.reverse.lookup name).map Number.value).or (environment.value? name) := by
  rw [value?, get?_bindAll, Option.map_or]
  rfl

/-- Whatever two environments held before, they agree on a name that was bound
    in both. -/
theorem value?_bindAll_of_mem {bindings : List (String × Number)}
    {name : String} (bound : name ∈ bindings.map Prod.fst) :
    (first.bindAll bindings).value? name = (second.bindAll bindings).value? name := by
  have found : (bindings.reverse.lookup name).isSome := by
    obtain ⟨binding, member, rfl⟩ := List.mem_map.mp bound
    rw [List.lookup_isSome_iff]
    exact ⟨binding, List.mem_reverse.mpr member, beq_self_eq_true _⟩
  obtain ⟨x, found⟩ := Option.isSome_iff_exists.mp found
  rw [value?_bindAll, value?_bindAll, found, Option.map_some, Option.some_or,
    Option.some_or]

end Environment

/-- A name comes to a number that is placed where the name stands, so only its
    value matters. -/
theorem lookUp_of_agree {context : Context} {first second : Environment} {name : Token}
    (agree : first.value? (Expr.nameOf name) = second.value? (Expr.nameOf name)) :
    lookUp context first name = lookUp context second name := by
  unfold Environment.value? at agree
  unfold lookUp
  cases inFirst : first.get? (Expr.nameOf name) with
  | none =>
      rw [inFirst, Option.map_none] at agree
      rw [Option.map_eq_none_iff.mp agree.symm]
  | some x =>
      rw [inFirst, Option.map_some] at agree
      obtain ⟨y, inSecond, same⟩ := Option.map_eq_some_iff.mp agree.symm
      rw [inSecond]
      simp only [Number.placedAt, same]

/-!
### Evaluations that agree

Two runs of one tree, side by side. Each case of the induction says that the
operands agree, and that what a node does with numbers that are equal is equal;
a binding node keeps the agreement, since it binds the same number on both
sides.
-/

/-- The machines agree on the names and have noted the same. -/
structure Machine.AgreesOn (names : Set String) (first second : Machine) : Prop where
  environment : Environment.AgreesOn names first.environment second.environment
  journal : first.journal = second.journal

namespace Machine.AgreesOn

variable {names : Set String} {first second : Machine}

theorem note (agree : Machine.AgreesOn names first second) (event : Event) :
    Machine.AgreesOn names (first.note event) (second.note event) where
  environment := agree.environment
  journal := congrArg (· ++ [event]) agree.journal

theorem bind (agree : Machine.AgreesOn names first second) (name : String)
    (x : Number) :
    Machine.AgreesOn names (first.bind name x) (second.bind name x) where
  environment := agree.environment.set name x
  journal := congrArg (· ++ [Event.bound name x]) agree.journal

end Machine.AgreesOn

/-- Results agree if they have one outcome and leave machines that agree. -/
def ResultsAgree (names : Set String)
    (first second : Except Diagnostic Number × Machine) : Prop :=
  first.1 = second.1 ∧ Machine.AgreesOn names first.2 second.2

/-- Results that agree are one fault or one number, and the machines they leave
    agree. -/
theorem ResultsAgree.outcomes {names : Set String}
    {result result' : Except Diagnostic Number × Machine}
    (agree : ResultsAgree names result result') :
    (∃ diagnostic machine machine', result = (.error diagnostic, machine) ∧
        result' = (.error diagnostic, machine') ∧
        Machine.AgreesOn names machine machine') ∨
      ∃ x machine machine', result = (.ok x, machine) ∧ result' = (.ok x, machine') ∧
        Machine.AgreesOn names machine machine' := by
  obtain ⟨outcome, machine⟩ := result
  obtain ⟨outcome', machine'⟩ := result'
  obtain ⟨rfl, agree⟩ := agree
  cases outcome with
  | error diagnostic => exact .inl ⟨diagnostic, machine, machine', rfl, rfl, agree⟩
  | ok x => exact .inr ⟨x, machine, machine', rfl, rfl, agree⟩

section

variable {context : Context} {names : Set String} {operand left right : Expr}
    {first second : Machine}

theorem agrees_unary (op : Token) (span : Span)
    (inner : ResultsAgree names (evaluate context operand first)
      (evaluate context operand second)) :
    ResultsAgree names (evaluate context (.unary op operand span) first)
      (evaluate context (.unary op operand span) second) := by
  rw [evaluate, evaluate]
  rcases inner.outcomes
    with ⟨_, _, _, inFirst, inSecond, agree⟩ | ⟨_, _, _, inFirst, inSecond, agree⟩
  · rw [inFirst, inSecond]
    exact ⟨rfl, agree⟩
  · rw [inFirst, inSecond]
    exact ⟨rfl, agree⟩

theorem agrees_assign (name : Token) (span : Span)
    (inner : ResultsAgree names (evaluate context operand first)
      (evaluate context operand second)) :
    ResultsAgree names (evaluate context (.assign name operand span) first)
      (evaluate context (.assign name operand span) second) := by
  rw [evaluate, evaluate]
  rcases inner.outcomes
    with ⟨_, _, _, inFirst, inSecond, agree⟩ | ⟨_, _, _, inFirst, inSecond, agree⟩
  · rw [inFirst, inSecond]
    exact ⟨rfl, agree⟩
  · rw [inFirst, inSecond]
    exact ⟨rfl, agree.bind _ _⟩

/-- The right operands start from machines that agree, since the left ones leave
    such. -/
theorem agrees_binary (op : Token) (span : Span)
    (inLeft : ResultsAgree names (evaluate context left first)
      (evaluate context left second))
    (inRight : ∀ {first second : Machine}, Machine.AgreesOn names first second →
      ResultsAgree names (evaluate context right first) (evaluate context right second)) :
    ResultsAgree names (evaluate context (.binary op left right span) first)
      (evaluate context (.binary op left right span) second) := by
  rw [evaluate, evaluate]
  rcases inLeft.outcomes
    with ⟨_, _, _, inFirst, inSecond, agree⟩ | ⟨x, _, _, inFirst, inSecond, agree⟩
  · rw [inFirst, inSecond]
    exact ⟨rfl, agree⟩
  · rw [inFirst, inSecond]
    dsimp only
    rcases (inRight agree).outcomes
      with ⟨_, _, _, inFirst, inSecond, agree⟩ | ⟨y, _, _, inFirst, inSecond, agree⟩
    · rw [inFirst, inSecond]
      exact ⟨rfl, agree⟩
    · rw [inFirst, inSecond]
      dsimp only
      cases applyOperator context op x y span with
      | error diagnostic => exact ⟨rfl, agree⟩
      | ok result => exact ⟨rfl, agree.note _⟩

end

/-- From machines that agree on the names of the tree, evaluation comes to one
    outcome and to machines that agree. -/
theorem evaluate_agrees {context : Context} {names : Set String} {e : Expr}
    (read : ∀ name ∈ e.reads, name ∈ names) {first second : Machine}
    (agree : Machine.AgreesOn names first second) :
    ResultsAgree names (evaluate context e first) (evaluate context e second) := by
  induction e generalizing first second with
  | number literal => exact ⟨rfl, agree⟩
  | access name =>
      exact ⟨lookUp_of_agree
          (agree.environment _ (read _ (List.mem_singleton_self _))), agree⟩
  | unary op operand span operandAgrees =>
      exact agrees_unary op span (operandAgrees read agree)
  | assign name value span valueAgrees =>
      exact agrees_assign name span (valueAgrees read agree)
  | binary op left right span leftAgrees rightAgrees =>
      obtain ⟨inLeft, inRight⟩ := List.forall_mem_append.mp read
      exact agrees_binary op span (leftAgrees inLeft agree) (rightAgrees inRight)

/-!
### A nest of scopes as one scope

The nearest bindings of all names, put into a single scope. It agrees with the
nest on every name, so the result on environments that agree applies to it.
-/

/-- The bindings of a scope over those of another, which it hides where both
    bind a name. -/
def Scope.atop (inner outer : Scope) : Scope :=
  inner.bindings.foldr (fun binding scope => scope.set binding.1 binding.2) outer

theorem Scope.get?_atop (inner outer : Scope) (name : String) :
    (inner.atop outer).get? name = (inner.get? name).or (outer.get? name) := by
  unfold atop
  change _ = (numberOf? name inner.bindings).or (outer.get? name)
  generalize inner.bindings = bindings
  induction bindings with
  | nil => rfl
  | cons binding bindings inductionHypothesis =>
      rw [List.foldr_cons, Scope.get?_set, inductionHypothesis, numberOf?]
      by_cases same : name = binding.1
      · rw [if_pos same, if_pos same.symm, Option.some_or]
      · rw [if_neg same, if_neg (Ne.symm same)]

/-- The environment as a single scope, in which every name has its nearest
    binding. -/
def Environment.flattened (environment : Environment) : Environment :=
  { scope := environment.scopes.foldr Scope.atop .empty }

/-- Every name means the same in the single scope. -/
theorem Environment.get?_flattened (environment : Environment) (name : String) :
    environment.flattened.get? name = environment.get? name := by
  rw [Environment.get?_eq, Environment.get?]
  unfold flattened
  generalize environment.scopes = scopes
  induction scopes with
  | nil => rfl
  | cons scope scopes inductionHypothesis =>
      rw [List.foldr_cons, Scope.get?_atop, List.findSome?_cons, ← inductionHypothesis]
      cases scope.get? name <;> rfl

/-!
### Main statement

Agreement afterwards is wanted for the names that were read and for those that
were bound; the others keep what they meant before, on either side.
-/

/-- Environments that agree on the names of the tree lead to one outcome and to
    the same bindings. -/
theorem outcome_and_bindings_of_agree (context : Context) {e : Expr}
    {names : Set String} {first second : Environment}
    (read : ∀ name ∈ e.reads, name ∈ names)
    (agree : Environment.AgreesOn names first second) :
    (evaluate context e { environment := first }).1 =
      (evaluate context e { environment := second }).1 ∧
      e.bindings context first = e.bindings context second := by
  have start : Machine.AgreesOn names { environment := first }
      { environment := second } := ⟨agree, rfl⟩
  have results : ResultsAgree names (evaluate context e { environment := first })
      (evaluate context e { environment := second }) := evaluate_agrees read start
  exact ⟨results.1, congrArg (List.filterMap Event.binding?) results.2.journal⟩

/-- An evaluation reads the values of the names in the tree and nothing else.
    From environments that agree on these names, and on any others, it comes to
    one outcome, number and place or diagnostic, and makes the same bindings;
    afterwards the environments agree on those names and on what was bound. So a
    nest of scopes and the single scope with the nearest bindings cannot be told
    apart. -/
theorem evaluate_reads_values {context : Context} {e : Expr}
    {names : Set String} {first second : Environment}
    (read : ∀ name ∈ e.reads, name ∈ names)
    (agree : Environment.AgreesOn names first second) :
    ((evaluate context e { environment := first }).1 =
        (evaluate context e { environment := second }).1 ∧
      e.bindings context first = e.bindings context second ∧
      ∀ name, name ∈ names ∨ name ∈ (e.bindings context first).map Prod.fst →
        (evaluate context e { environment := first }).2.environment.value? name =
          (evaluate context e { environment := second }).2.environment.value? name) ∧
    (evaluate context e { environment := first.flattened }).1 =
      (evaluate context e { environment := first }).1 ∧
      ∀ name,
        (evaluate context e { environment := first.flattened }).2.environment.get? name =
        (evaluate context e { environment := first }).2.environment.get? name := by
  obtain ⟨outcome, bindings⟩ := outcome_and_bindings_of_agree context read agree
  have flat : Environment.AgreesOn Set.univ first.flattened first := fun name _ =>
    congrArg (Option.map Number.value) (first.get?_flattened name)
  have readAny : ∀ name ∈ e.reads, name ∈ Set.univ := fun name _ => Set.mem_univ name
  obtain ⟨flatOutcome, flatBindings⟩ :=
    outcome_and_bindings_of_agree context readAny flat
  refine ⟨⟨outcome, bindings, ?_⟩, flatOutcome, ?_⟩
  · intro name known
    rw [evaluate_environment, evaluate_environment, ← bindings]
    rcases known with member | bound
    · rw [Environment.value?_bindAll, Environment.value?_bindAll, agree name member]
    · exact Environment.value?_bindAll_of_mem bound
  · intro name
    rw [evaluate_environment, evaluate_environment, flatBindings,
      Environment.get?_bindAll, Environment.get?_bindAll,
      Environment.get?_flattened]

/-- The tree of `(let y = x) * y`. -/
def boundAndRead : Expr :=
  let span (start stop : Nat) : Span :=
    ⟨⟨start, 0, start⟩, ⟨stop, 0, stop⟩,
      { label := "<test>", content := "(let y = x) * y" }⟩
  let name (word : String) (start : Nat) : Token :=
    ⟨.identifier, some (.text word), span start (start + 1)⟩
  .binary ⟨.multiply, none, span 12 13⟩
    (.assign (name "y" 5) (.access (name "x" 9)) (span 1 10))
    (.access (name "y" 14)) (span 1 15)

/-- A scope that binds `x` in one that binds it otherwise. -/
def shadowed : Environment :=
  (Environment.empty.set "x" { value := .int 1 }).push.set "x"
    { value := .int 4
      span? := some (.point {} { label := "<earlier>", content := "4" }) }

theorem evaluate_reads_values_of_shadowed :
    let single := Environment.empty.set "x" { value := .int 4 }
    (∀ name ∈ boundAndRead.reads, name ∈ ({"x", "y"} : Set String)) ∧
      Environment.AgreesOn {"x", "y"} shadowed single ∧
      (evaluate .program boundAndRead { environment := shadowed }).1 =
        (evaluate .program boundAndRead { environment := single }).1 := by
  intro single
  have read : ∀ name ∈ boundAndRead.reads, name ∈ ({"x", "y"} : Set String) := by
    simp [boundAndRead, Expr.reads, Expr.nameOf, Token.text?]
  have agree : Environment.AgreesOn {"x", "y"} shadowed single := by
    rintro name (rfl | rfl)
    · rfl
    · rfl
  exact ⟨read, agree, (evaluate_reads_values read agree).1.1⟩

end Abacus
