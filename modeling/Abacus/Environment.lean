/-
Module: Abacus.Environment
Purpose: Which names are bound to which numbers. A scope binds each name at most
  once; an environment is a nest of scopes, in which a name means its nearest
  binding and only the innermost scope is written. The lemmas say what each
  write does to every lookup.
Main exports: Scope, Scope.get?, Scope.set, Scope.remove, Environment,
  Environment.get?, Environment.set, Environment.remove, Environment.push,
  Environment.pop?
-/
import Abacus.Number

namespace Abacus

/-!
### Bindings

Lists of names with their numbers, in the order in which the names were first
bound.
-/

/-- Binds a name: where it is bound already if it is, else at the end. -/
def bindName (name : String) (x : Number) :
    List (String × Number) → List (String × Number)
  | [] => [(name, x)]
  | (other, y) :: bindings =>
      if other = name then (name, x) :: bindings
      else (other, y) :: bindName name x bindings

/-- The number that a name is bound to. -/
def numberOf? (name : String) : List (String × Number) → Option Number
  | [] => none
  | (other, x) :: bindings =>
      if other = name then some x else numberOf? name bindings

/-- A bound name means the number it was last bound to, and no other name
    changes its meaning. -/
theorem numberOf?_bindName (name other : String) (x : Number)
    (bindings : List (String × Number)) :
    numberOf? other (bindName name x bindings) =
      if other = name then some x else numberOf? other bindings := by
  induction bindings with
  | nil => simp [bindName, numberOf?, eq_comm]
  | cons head bindings inductionHypothesis => grind [bindName, numberOf?]

/-- A dropped name means nothing, and no other name changes its meaning. -/
theorem numberOf?_filter (name other : String) (bindings : List (String × Number)) :
    numberOf? other (bindings.filter (·.1 != name)) =
      if other = name then none else numberOf? other bindings := by
  induction bindings with
  | nil => simp [numberOf?]
  | cons head bindings inductionHypothesis => grind [numberOf?]

/-- Binding a name adds it to the bound names and keeps all others. -/
theorem mem_names_bindName {name other : String} {x : Number}
    {bindings : List (String × Number)} :
    other ∈ (bindName name x bindings).map Prod.fst ↔
      other = name ∨ other ∈ bindings.map Prod.fst := by
  induction bindings with
  | nil => simp [bindName]
  | cons head bindings inductionHypothesis =>
      obtain ⟨first, y⟩ := head
      unfold bindName
      split
      case isTrue same =>
        subst same
        simp
      case isFalse =>
        simp only [List.map_cons, List.mem_cons, inductionHypothesis]
        exact or_left_comm

/-- Binding a name keeps the bound names distinct. -/
theorem nodup_names_bindName {name : String} {x : Number}
    {bindings : List (String × Number)} (distinct : (bindings.map Prod.fst).Nodup) :
    ((bindName name x bindings).map Prod.fst).Nodup := by
  induction bindings with
  | nil => simp [bindName]
  | cons head bindings inductionHypothesis =>
      obtain ⟨first, y⟩ := head
      rw [List.map_cons, List.nodup_cons] at distinct
      unfold bindName
      split
      case isTrue same =>
        subst same
        simpa using distinct
      case isFalse different =>
        rw [List.map_cons, List.nodup_cons]
        refine ⟨fun member => ?_, inductionHypothesis distinct.2⟩
        rcases mem_names_bindName.mp member with same | old
        · exact different same
        · exact distinct.1 old

/-- Dropping the bindings of a name keeps the bound names distinct. -/
theorem nodup_names_filter {keep : String × Number → Bool}
    {bindings : List (String × Number)} (distinct : (bindings.map Prod.fst).Nodup) :
    ((bindings.filter keep).map Prod.fst).Nodup :=
  List.Pairwise.sublist (List.Sublist.map _ List.filter_sublist) distinct

/-!
### Scopes

A scope carries the proof that its names are distinct, which `bindName` and the
dropping of a name preserve. So a lookup after a write is decided by whether the
names are equal, and that is all the lemmas say.
-/

/-- Names with one number each. -/
structure Scope where
  bindings : List (String × Number) := []
  distinct : (bindings.map Prod.fst).Nodup := by decide
deriving DecidableEq, Repr

namespace Scope

/-- The scope that binds no name. -/
def empty : Scope := {}

instance : Inhabited Scope := ⟨empty⟩

/-- The number that a name is bound to. -/
def get? (scope : Scope) (name : String) : Option Number :=
  numberOf? name scope.bindings

/-- Binds a name, in place of any earlier binding. -/
def set (scope : Scope) (name : String) (x : Number) : Scope where
  bindings := bindName name x scope.bindings
  distinct := nodup_names_bindName scope.distinct

/-- Drops the binding of a name. -/
def remove (scope : Scope) (name : String) : Scope where
  bindings := scope.bindings.filter (·.1 != name)
  distinct := nodup_names_filter scope.distinct

/-- How many names are bound. -/
def size (scope : Scope) : Nat :=
  scope.bindings.length

/-- Whether no name is bound. -/
def isEmpty (scope : Scope) : Bool :=
  scope.bindings.isEmpty

@[simp] theorem get?_empty (name : String) : empty.get? name = none := rfl

/-- A bound name means the number it was last bound to, and no other name
    changes its meaning. -/
theorem get?_set (scope : Scope) (name other : String) (x : Number) :
    (scope.set name x).get? other =
      if other = name then some x else scope.get? other :=
  numberOf?_bindName name other x scope.bindings

/-- A removed name means nothing, and no other name changes its meaning. -/
theorem get?_remove (scope : Scope) (name other : String) :
    (scope.remove name).get? other = if other = name then none else scope.get? other :=
  numberOf?_filter name other scope.bindings

end Scope

/-!
### Environments

Each operation is the one of the innermost scope but for lookups, which go
outward. `get?_eq` splits a lookup into that of the innermost scope and that of
the others, and the lemmas about writes follow from it and those about scopes.
-/

/-- A nest of scopes: the innermost one, and those around it from the inside
    out. -/
structure Environment where
  scope : Scope := .empty
  outer : List Scope := []
deriving DecidableEq, Repr, Inhabited

namespace Environment

/-- The environment without bindings and without nested scopes. -/
def empty : Environment := {}

/-- The scopes from the inside out. -/
def scopes (environment : Environment) : List Scope :=
  environment.scope :: environment.outer

/-- The number that a name means: that of its nearest binding. -/
def get? (environment : Environment) (name : String) : Option Number :=
  environment.scopes.findSome? (·.get? name)

/-- Whether a name means anything. -/
def contains (environment : Environment) (name : String) : Bool :=
  (environment.get? name).isSome

/-- Binds a name in the innermost scope. -/
def set (environment : Environment) (name : String) (x : Number) : Environment :=
  { environment with scope := environment.scope.set name x }

/-- Drops the binding of a name from the innermost scope. -/
def remove (environment : Environment) (name : String) : Environment :=
  { environment with scope := environment.scope.remove name }

/-- How many names the innermost scope binds. -/
def size (environment : Environment) : Nat :=
  environment.scope.size

/-- Whether the innermost scope binds no name. -/
def isEmpty (environment : Environment) : Bool :=
  environment.scope.isEmpty

/-- Opens an empty scope inside the innermost one. -/
def push (environment : Environment) : Environment where
  scope := .empty
  outer := environment.scopes

/-- What is left when the innermost scope is closed. The outermost one stays
    open. -/
def pop? (environment : Environment) : Option Environment :=
  match environment.outer with
  | [] => none
  | scope :: outer => some { scope, outer }

/-- How many scopes are open around the innermost one. -/
def depth (environment : Environment) : Nat :=
  environment.outer.length

/-- A lookup asks the innermost scope first. -/
theorem get?_eq (environment : Environment) (name : String) :
    environment.get? name =
      (environment.scope.get? name).or (environment.outer.findSome? (·.get? name)) := by
  unfold get? scopes
  rw [List.findSome?_cons]
  cases environment.scope.get? name <;> rfl

/-- A bound name means the number it was last bound to, and no other name
    changes its meaning. -/
theorem get?_set (environment : Environment) (name other : String) (x : Number) :
    (environment.set name x).get? other =
      if other = name then some x else environment.get? other := by
  rw [get?_eq, get?_eq]
  unfold set
  dsimp only
  rw [Scope.get?_set]
  split <;> rfl

/-- An opened scope changes the meaning of no name. -/
@[simp] theorem get?_push (environment : Environment) (name : String) :
    environment.push.get? name = environment.get? name := rfl

/-- Closing an opened scope gives back the environment as it was. -/
@[simp] theorem pop?_push (environment : Environment) :
    environment.push.pop? = some environment := rfl

end Environment

end Abacus
