import Audience.Proofs.Criteria.Compiled
import Audience.Proofs.Stored.Bound
import Audience.Proofs.Stored.Meaning

set_option autoImplicit false

/-! # Conditions in order

For compiling, a tree of criteria is the list of its conditions: those at the root, then those in its
groups (`Tree.members`). Normalizing brings each of them into the vocabulary in its place, at its time and
with whatever the cache holds by then (`Tree.forall₂_normalize`). Storing gives each a formula that neither
its number nor the operators around it play a part in (`Tree.map_formula_ofCriteria`). -/

namespace Audience.Criteria

open Mapping (Cache)

/-! ## Conditions in their places -/

/-- The conditions of a tree, at the root and in its groups. -/
def Tree.members (t : Tree) : List Condition :=
  t.conditions ++ t.groups.flatMap (·.conditions)

section Normalize

variable (s : Setting) (cache : Cache)

/-- A condition on a column, and what normalizing makes of it at some time with some cache. -/
def Attribute.Becomes (fallback : Dataset) (a a' : Attribute) : Prop :=
  ∃ clock cache, ((a.normalize (s.during clock) fallback).run cache).1 = a'

/-- A condition, and what normalizing makes of it at some time with some cache. -/
def Condition.Becomes (c c' : Condition) : Prop :=
  ∃ clock cache, ((c.normalize (s.during clock)).run cache).1 = c'

/-- Normalizing treats the amount of an event like any condition on its column, and leaves the conditions of
the event in their places. -/
theorem Event.forall₂_eventAttributes (e : Event) :
    List.Forall₂ (Attribute.Becomes s .transactions) (Stored.eventAttributes e)
      (Stored.eventAttributes ((e.normalize s).run cache).1) := by
  have hattributes : List.Forall₂ (Attribute.Becomes s .transactions) e.attributes
      ((e.normalize s).run cache).1.attributes :=
    forall₂_each (fun clock _ cache => ⟨clock, cache, rfl⟩) e.attributes cache
  unfold Stored.eventAttributes
  rw [(e.normalize_eq s cache).1]
  cases hcompares : e.comparesAmount with
  | false => exact hattributes
  | true =>
      refine .cons ⟨s.deadline, cache, ?_⟩ hattributes
      obtain ⟨raw, hraw⟩ : ∃ raw, e.operator = some raw := by
        rw [Event.comparesAmount, Bool.and_eq_true] at hcompares
        exact Option.isSome_iff_exists.1 hcompares.1
      -- There is no second value, and so no age range.
      have hdates : (⟨some Dataset.transactions.name, some Stored.amountColumn, some raw, e.value,
          .null⟩ : Attribute).birthDates? s.year = none := by
        simp [Attribute.birthDates?, Scalar.int64?]
      have hnormal : ((e.normalize s).run cache).1.operator
          = e.operator.map fun raw => (FieldType.number.matchOperator raw).code := rfl
      rw [hnormal, hraw, Setting.during_deadline, Attribute.normalize_eq, hdates]
      rfl

/-- Normalizing leaves every condition in its place. -/
theorem Tree.forall₂_normalize (t : Tree) :
    List.Forall₂ (Condition.Becomes s) t.members ((t.normalize s).run cache).1.members := by
  have hconditions : ∀ clock cs cache, List.Forall₂ (Condition.Becomes s) cs
      ((each Condition.normalize (s.during clock) cs).run cache).1 := by
    intro clock
    exact forall₂_each fun clock _ cache => ⟨clock, cache, rfl⟩
  have hgroups : ∀ cache, List.Forall₂
      (fun g g' : Group => List.Forall₂ (Condition.Becomes s) g.conditions g'.conditions) t.groups
      ((each Group.normalize s.rest t.groups).run cache).1 :=
    forall₂_each (fun clock g cache => hconditions clock g.conditions cache) t.groups
  refine List.rel_append (hconditions _ t.conditions cache) ?_
  exact List.rel_flatMap (hgroups _) fun _ _ h => h

end Normalize

/-! ## Formulas -/

/-- The formula that a condition on a column has once it is stored. -/
def Attribute.formula (fallback : String) (a : Attribute) : Except CompileError Formula :=
  (Stored.Attribute.ofCriteria .and fallback 0 a).formula

/-- The formula that a condition has once it is stored. -/
def Condition.formula (c : Condition) : Except CompileError Formula :=
  (Stored.Condition.ofCriteria .and 0 c).formula

theorem Condition.formula_ofCriteria (logic : Logic) (id : UInt32) (c : Condition) :
    (Stored.Condition.ofCriteria logic id c).formula = c.formula := by
  match c with
  | .attribute a => rfl
  | .event e =>
      simp only [formula, Stored.Condition.ofCriteria, Stored.Condition.formula, Stored.Event.formula,
        Stored.Event.window?, Stored.Event.ofCriteria]

/-- A tree is stored with the formulas of its conditions in order. -/
theorem Tree.map_formula_ofCriteria (t : Tree) :
    (Stored.Tree.ofCriteria t).members.map Stored.Condition.formula
      = t.members.map Condition.formula := by
  have hgroup : ∀ (id : UInt32) (g : Group),
      (Stored.Group.ofCriteria t.logic id g).conditions.map Stored.Condition.formula
        = g.conditions.map Condition.formula := fun id g =>
    Stored.map_numbered (Condition.formula_ofCriteria t.logic) g.conditions
  rw [Stored.Tree.members, members, List.map_append, List.map_append, List.map_flatMap,
    List.map_flatMap]
  refine congrArg₂ (· ++ ·) ?_ ?_
  · exact Stored.map_numbered (Condition.formula_ofCriteria t.logic) t.conditions
  · exact Stored.flatMap_numbered (f := Stored.Group.ofCriteria t.logic) hgroup t.groups

/-- An event is stored with the formulas of its conditions on columns in order. -/
theorem Event.map_formula_ofCriteria (logic : Logic) (id : UInt32) (e : Event) :
    (Stored.Event.ofCriteria logic id e).attributes.map Stored.Attribute.formula
      = (Stored.eventAttributes e).map (Attribute.formula Dataset.transactions.name) :=
  Stored.map_numbered (f := Stored.Attribute.ofCriteria .and Dataset.transactions.name)
    (fun _ _ => rfl) (Stored.eventAttributes e)

/-- The first condition of an event on a column that fails stops the event. -/
theorem Condition.formula_event_eq_error_iff (e : Event) (err : CompileError) :
    (Condition.event e).formula = .error err ↔
      FailsFirst (Attribute.formula Dataset.transactions.name) (Stored.eventAttributes e) err := by
  rw [formula, Stored.Condition.formula_eq_error_iff]
  exact failsFirst_iff_of_map_eq (e.map_formula_ofCriteria .and 0)

/-- An event binds what its conditions on columns bind, and after that how far back and how often. -/
theorem Condition.bindings_formula_event {e : Event} {f : Formula}
    (h : (Condition.event e).formula = .ok f) :
    ∃ extent, extent.length ≤ 2 ∧ f.bindings
      = ((Stored.eventAttributes e).map (Attribute.formula Dataset.transactions.name)).flatMap boundBy
        ++ extent := by
  rw [← e.map_formula_ofCriteria .and 0]
  exact ⟨_, Stored.Event.length_extentBindings _, Stored.Event.bindings_formula h⟩

/-- The first condition of a tree that fails stops the tree. -/
theorem Tree.predicate_eq_error_iff (t : Tree) (d : Dialect) (e : CompileError) :
    (Stored.Tree.ofCriteria t).predicate d = .error e ↔ FailsFirst Condition.formula t.members e := by
  rw [Stored.Tree.predicate_eq_error_iff]
  exact failsFirst_iff_of_map_eq t.map_formula_ofCriteria

/-- A tree compiles when each of its conditions has a formula. -/
theorem Tree.exists_predicate_iff_formula (t : Tree) (d : Dialect) :
    (∃ p, (Stored.Tree.ofCriteria t).predicate d = .ok p) ↔ ∀ c ∈ t.members, ∃ f, c.formula = .ok f := by
  rw [exists_eq_ok_iff, forall_ok_iff]
  exact forall_congr' fun e => not_congr (t.predicate_eq_error_iff d e)

/-- The parameters of a tree are those of its conditions in order. -/
theorem Tree.params_predicate {t : Tree} {d : Dialect} {p : Predicate}
    (h : (Stored.Tree.ofCriteria t).predicate d = .ok p) :
    p.params = ((t.members.map Condition.formula).flatMap boundBy).map (Binding.scalar d) := by
  rw [Stored.Tree.params_predicate h, t.map_formula_ofCriteria]

/-! ## Conditions that name their column -/

section Named

variable {c : Column} {operator : String} {test : ColumnTest}
  (htest : c.type.test? operator = some test)
include htest

theorem Attribute.predicate_on (fallback : String) (value value2 : Scalar) :
    (Stored.Attribute.ofCriteria .and fallback 0 (on c operator value value2)).predicate c
      = test.formula c value.display value2.display := by
  have hoperator : (Stored.Attribute.ofCriteria .and fallback 0
      (on c operator value value2)).operator = operator := rfl
  rw [Stored.Attribute.predicate_eq, hoperator, htest]
  rfl

variable (hc : Catalog.lookup c.dataset.name c.name = some c)
include hc

/-- A condition on a column fails when its test of the column does. -/
theorem Attribute.formula_on_eq_error_iff (fallback : String) (value value2 : Scalar)
    (e : CompileError) :
    (on c operator value value2).formula fallback = .error e ↔
      test.formula c value.display value2.display = .error e := by
  rw [formula, Stored.Attribute.formula_eq_error_iff, catalogColumn_on hc,
    ← predicate_on htest fallback]
  simp

/-- A condition on a column binds what its test of the column does. -/
theorem Attribute.bindings_formula_on {value value2 : Scalar} {f : Formula}
    (hf : test.formula c value.display value2.display = .ok f) (fallback : String) :
    ∃ g, (on c operator value value2).formula fallback = .ok g ∧ g.bindings = f.bindings :=
  Stored.Attribute.bindings_formula (catalogColumn_on hc fallback operator value value2)
    ((predicate_on htest fallback value value2).trans hf)

end Named

end Audience.Criteria
