import Audience.Criteria.OfEntities
import Audience.Proofs.Criteria.Passes
import Audience.Proofs.Stored.Compiled

set_option autoImplicit false

/-! # Which criteria compile

Criteria compile once they are stored when each of their conditions does, wherever it stands and whatever
its number (`Criteria.Tree.exists_predicate_iff`). A condition on a column of the catalog compiles when its
values are values of that column (`Criteria.Attribute.compiles_comparison_iff`), and it keeps its column on
the way from a sentence to normal criteria (`Criteria.Attribute.normalize_on`). -/

namespace Audience

open Mapping (Cache)

namespace Criteria

/-! ## Conditions and trees -/

/-- Whether a condition on a column has a formula once it is stored. -/
def Attribute.Compiles (fallback : String) (a : Attribute) : Prop :=
  ∃ f, (Stored.Attribute.ofCriteria .and fallback 0 a).formula = .ok f

/-- Whether a condition has a formula once it is stored. -/
def Condition.Compiles : Condition → Prop
  | .attribute a => a.Compiles ""
  | .event e => ∀ a ∈ Stored.eventAttributes e, a.Compiles Dataset.transactions.name

/-- The number and the operator of a stored condition play no part in its formula. -/
theorem Attribute.exists_formula_iff (a : Attribute) (logic : Logic) (fallback : String) (id : UInt32) :
    (∃ f, (Stored.Attribute.ofCriteria logic fallback id a).formula = .ok f) ↔ a.Compiles fallback :=
  Iff.rfl

theorem Condition.exists_formula_iff (c : Condition) (logic : Logic) (id : UInt32) :
    (∃ f, (Stored.Condition.ofCriteria logic id c).formula = .ok f) ↔ c.Compiles := by
  match c with
  | .attribute a => exact a.exists_formula_iff logic "" id
  | .event e =>
      have hnumbered := Stored.forall_mem_numbered_iff
        (p := fun a : Stored.Attribute => ∃ f, a.formula = .ok f)
        (fun id a => Attribute.exists_formula_iff a .and Dataset.transactions.name id)
        (Stored.eventAttributes e)
      exact (Stored.Event.exists_formula_iff _).trans hnumbered

/-- A tree compiles when each of its conditions does, at the root and in its groups. -/
theorem Tree.exists_predicate_iff (t : Tree) (d : Dialect) :
    (∃ p, (Stored.Tree.ofCriteria t).predicate d = .ok p) ↔
      (∀ c ∈ t.conditions, c.Compiles) ∧ ∀ g ∈ t.groups, ∀ c ∈ g.conditions, c.Compiles := by
  rw [Stored.Tree.exists_predicate_iff, Stored.Tree.members, List.forall_mem_append]
  refine and_congr ?_ ?_
  · exact Stored.forall_mem_numbered_iff (fun id c => c.exists_formula_iff t.logic id) t.conditions
  · rw [List.forall_mem_flatMap]
    refine Stored.forall_mem_numbered_iff (fun id g => ?_) t.groups
    exact Stored.forall_mem_numbered_iff (fun id c => c.exists_formula_iff t.logic id) g.conditions

/-! ## Conditions that name their column -/

/-- A condition on a column of the catalog. -/
def Attribute.on (c : Column) (operator : String) (value value2 : Scalar) : Attribute :=
  ⟨some c.dataset.name, some c.name, some operator, value, value2⟩

section Named

variable {c : Column} (hc : Catalog.lookup c.dataset.name c.name = some c)
include hc

/-- The compiler finds the column that a condition names. -/
theorem Attribute.catalogColumn_on (fallback operator : String) (value value2 : Scalar) :
    (Stored.Attribute.ofCriteria .and fallback 0 (on c operator value value2)).catalogColumn
      = .ok c := by
  have hblank : Text.isAllBlank c.dataset.name = false := by
    cases c.dataset <;> decide
  have hcolumn : (Stored.Attribute.ofCriteria .and fallback 0 (on c operator value value2)).column
      = c.name := rfl
  have hdataset : (Stored.Attribute.ofCriteria .and fallback 0 (on c operator value value2)).dataset
      = c.dataset.name := rfl
  simp [Stored.Attribute.catalogColumn, hcolumn, hdataset, hblank, hc]

theorem Attribute.compiles_on_iff (operator fallback : String) (value value2 : Scalar) :
    (on c operator value value2).Compiles fallback ↔
      ∃ f, (Stored.Attribute.ofCriteria .and fallback 0 (on c operator value value2)).predicate c
        = .ok f :=
  Stored.Attribute.exists_formula_iff (catalogColumn_on hc fallback operator value value2)

theorem Attribute.compiles_comparison_iff {operator : String} {op : Comparison}
    (hop : c.type.comparison? operator = some op) (fallback : String) (value value2 : Scalar) :
    (on c operator value value2).Compiles fallback ↔
      (c.type.value? value.display).isSome = true := by
  rw [compiles_on_iff hc]
  exact Stored.Attribute.exists_predicate_comparison_iff hop

theorem Attribute.compiles_between_iff (hranges : c.type.hasRanges = true) (fallback : String)
    (value value2 : Scalar) :
    (on c "between" value value2).Compiles fallback ↔
      (c.type.value? value.display).isSome = true ∧ (c.type.value? value2.display).isSome = true := by
  rw [compiles_on_iff hc]
  exact Stored.Attribute.exists_predicate_between_iff hranges rfl

/-- A condition that asks for no birth dates keeps its column, and its values where nothing is mapped. -/
theorem Attribute.normalize_on {operator : String} {value value2 : Scalar} {s : Setting}
    (hdates : (on c operator value value2).birthDates? s.year = none) (fallback : Dataset)
    (cache : Cache) :
    ∃ v v2, (((on c operator value value2).normalize s fallback).run cache).1
        = on c (c.type.matchOperator operator).code v v2 ∧
      (c.mapping = none → v = value ∧ v2 = value2) := by
  have htype : Catalog.fieldType c.dataset.name c.name = c.type := by
    rw [Catalog.fieldType, hc]
    rfl
  have hmapping : Catalog.mapping c.dataset.name c.name = c.mapping := by
    rw [Catalog.mapping, hc]
    rfl
  have hdataset : (on c operator value value2).datasetOr fallback = c.dataset.name := rfl
  have hfield : (on c operator value value2).field.getD "" = c.name := rfl
  unfold Attribute.normalize
  rw [hdates]
  simp only [hdataset, hfield, htype, hmapping]
  cases hmap : c.mapping with
  | none => exact ⟨value, value2, rfl, fun _ => ⟨rfl, rfl⟩⟩
  | some category => exact ⟨_, _, rfl, fun h => by simp at h⟩

theorem Attribute.ofEntity_on {operator : String} {value value2 : Scalar} {s : Setting}
    (hdates : (on c operator value value2).birthDates? s.year = none) (cache : Cache) :
    ∃ v, ((Attribute.ofEntity s c.dataset.name c.name operator value value2).run cache).1
        = on c operator v value2 ∧
      (c.mapping = none → v = value) := by
  have hmapping : Catalog.mapping c.dataset.name c.name = c.mapping := by
    rw [Catalog.mapping, hc]
    rfl
  unfold Attribute.ofEntity
  dsimp only
  unfold on at hdates
  rw [hdates, hmapping]
  cases hmap : c.mapping with
  | none => exact ⟨value, rfl, fun _ => rfl⟩
  | some category => exact ⟨_, rfl, fun h => by simp at h⟩

end Named

end Criteria

end Audience
