import Audience.Formula.OfStored
import Audience.Proofs.Criteria.Passes

set_option autoImplicit false

/-! # Which column a condition is about

Three parts of the program find the column of a condition. Normalizing looks up its type and its mappings,
storing writes down a dataset and a name, and the compiler finds the column of what is stored. The first
two always speak of the same dataset and name (`Tree.entries_ofCriteria`). The compiler takes a blank
dataset for none at all, while normalizing takes it for the name of a dataset, which no column has; so
for a blank dataset the column that the compiler finds is looked up as plain text
(`lookedUp_eq_column_iff`). -/

namespace Audience

open Mapping (Cache)

/-! ## What is looked up -/

/-- The type and the mappings that normalizing looks up. -/
abbrev Catalog.Entry := FieldType × Option Category

namespace Criteria

/-- What normalizing looks up for a condition on a column. -/
def Attribute.lookedUp (fallback : Dataset) (a : Attribute) : Catalog.Entry :=
  (Catalog.fieldType (a.datasetOr fallback) (a.field.getD ""),
    Catalog.mapping (a.datasetOr fallback) (a.field.getD ""))

/-- What normalizing looks up is all that it takes from the catalog besides the dataset. -/
theorem Attribute.normalize_eq (s : Setting) (fallback : Dataset) (a : Attribute) :
    a.normalize s fallback =
      match a.birthDates? s.year with
      | some (first, last) =>
        pure ⟨some (a.datasetOr fallback), a.field, some "between", .text first, .text last⟩
      | none => do
        let value ← s.first.standardizeIn (a.lookedUp fallback).2 a.value
        let value2 ← s.rest.standardizeIn (a.lookedUp fallback).2 a.value2
        return ⟨some (a.datasetOr fallback), a.field,
          some ((a.lookedUp fallback).1.matchOperator (a.operator.getD "")).code, value, value2⟩ := by
  unfold Attribute.normalize
  cases a.birthDates? s.year <;> rfl

/-- What is looked up for a condition on events. If it compares its amount, a number is looked up. -/
def Event.lookedUp (e : Event) : List Catalog.Entry :=
  (if e.comparesAmount then [(.number, none)] else [])
    ++ e.attributes.map (Attribute.lookedUp .transactions)

/-- What is looked up for a condition. -/
def Condition.lookedUp : Condition → List Catalog.Entry
  | .attribute a => [a.lookedUp .customers]
  | .event e => e.lookedUp

/-- What is looked up for a tree, condition by condition. -/
def Tree.lookedUp (t : Tree) : List Catalog.Entry :=
  t.conditions.flatMap Condition.lookedUp
    ++ t.groups.flatMap fun g => g.conditions.flatMap Condition.lookedUp

end Criteria

namespace Stored

/-- The conditions on columns that a stored condition makes. -/
def Condition.attributes : Condition → List Attribute
  | .attribute a => [a]
  | .event e => e.attributes

/-- The conditions on columns of a stored tree, in the order of its conditions. -/
def Tree.attributes (t : Tree) : List Attribute :=
  t.conditions.flatMap Condition.attributes
    ++ t.groups.flatMap fun g => g.conditions.flatMap Condition.attributes

/-- What the catalog says about the dataset and the name that are stored. -/
def Attribute.entry (a : Attribute) : Catalog.Entry :=
  (Catalog.fieldType a.dataset a.column, Catalog.mapping a.dataset a.column)

/-- What the catalog says about a stored condition. -/
def Condition.entries (c : Condition) : List Catalog.Entry :=
  c.attributes.map Attribute.entry

/-- What the catalog says about the members of a stored group. -/
def Group.entries (g : Group) : List Catalog.Entry :=
  g.conditions.flatMap Condition.entries

theorem Tree.map_entry_attributes (t : Tree) :
    t.attributes.map Attribute.entry
      = t.conditions.flatMap Condition.entries ++ t.groups.flatMap Group.entries := by
  simp only [Tree.attributes, List.map_append, List.map_flatMap]
  rfl

end Stored

/-! ## What is stored -/

namespace Criteria

variable (s : Setting) (cache : Cache)

theorem Attribute.normalize_dataset (fallback : Dataset) (a : Attribute) :
    ((a.normalize s fallback).run cache).1.dataset = some (a.datasetOr fallback) := by
  unfold Attribute.normalize
  cases a.birthDates? s.year <;> rfl

theorem Attribute.normalize_field (fallback : Dataset) (a : Attribute) :
    ((a.normalize s fallback).run cache).1.field = a.field := by
  unfold Attribute.normalize
  cases a.birthDates? s.year <;> rfl

/-- A condition is stored with the dataset and the name that were looked up. -/
theorem Attribute.entry_ofCriteria (fallback : Dataset) (logic : Logic) (other : String)
    (id : UInt32) (a : Attribute) :
    (Stored.Attribute.ofCriteria logic other id ((a.normalize s fallback).run cache).1).entry
      = a.lookedUp fallback := by
  have hdataset := a.normalize_dataset s cache fallback
  have hfield := a.normalize_field s cache fallback
  simp only [Stored.Attribute.entry, Stored.Attribute.ofCriteria, Stored.datasetOf, hdataset, hfield,
    Option.getD_some, Attribute.lookedUp]

/-- Normalizing an event leaves it to its conditions on columns which column is looked up. -/
theorem Event.normalize_eq (e : Event) :
    ((e.normalize s).run cache).1.comparesAmount = e.comparesAmount ∧
      ((e.normalize s).run cache).1.attributes
        = ((each (Attribute.normalize · .transactions) s e.attributes).run cache).1 := by
  refine ⟨?_, rfl⟩
  have hoperator : ((e.normalize s).run cache).1.operator
      = e.operator.map fun raw => (FieldType.number.matchOperator raw).code := rfl
  have hvalue : ((e.normalize s).run cache).1.value = e.value := rfl
  rw [Event.comparesAmount, hoperator, hvalue, Option.isSome_map, Event.comparesAmount]

/-- An event is stored with the datasets and names that were looked up, its amount among them. -/
theorem Event.entries_ofCriteria (logic : Logic) (id : UInt32) (e : Event) :
    (Stored.Condition.event (.ofCriteria logic id ((e.normalize s).run cache).1)).entries
      = e.lookedUp := by
  obtain ⟨hamount, hattributes⟩ := e.normalize_eq s cache
  -- The entry of a condition on a column does not depend on its number.
  have hnumbered : ∀ as : List Attribute,
      (Stored.numbered (Stored.Attribute.ofCriteria .and Dataset.transactions.name) as).map
          Stored.Attribute.entry
        = as.map fun a => (Stored.Attribute.ofCriteria .and Dataset.transactions.name 0 a).entry :=
    Stored.map_numbered fun _ _ => rfl
  have heach : ((e.normalize s).run cache).1.attributes.map
        (fun a => (Stored.Attribute.ofCriteria .and Dataset.transactions.name 0 a).entry)
      = e.attributes.map (Attribute.lookedUp .transactions) := by
    rw [hattributes]
    exact map_each (fun a _ clock cache =>
      a.entry_ofCriteria (s.during clock) cache .transactions .and _ 0) cache
  rw [Stored.Condition.entries, Stored.Condition.attributes, Stored.Event.ofCriteria, hnumbered,
    Stored.eventAttributes, hamount, Event.lookedUp]
  cases e.comparesAmount with
  | true =>
      rw [if_pos rfl, if_pos rfl, List.map_cons, heach]
      rfl
  | false =>
      rw [if_neg Bool.false_ne_true, if_neg Bool.false_ne_true, heach]
      rfl

/-- A condition is stored with the datasets and names that were looked up. -/
theorem Condition.entries_ofCriteria (logic : Logic) (id : UInt32) (c : Condition) :
    (Stored.Condition.ofCriteria logic id ((c.normalize s).run cache).1).entries = c.lookedUp := by
  match c with
  | .attribute a => exact congrArg (fun x => [x]) (a.entry_ofCriteria s cache .customers logic "" id)
  | .event e => exact e.entries_ofCriteria s cache logic id

/-- Conditions are stored in order with the datasets and names that were looked up. -/
theorem entries_numbered (logic : Logic) (cs : List Condition) :
    (Stored.numbered (Stored.Condition.ofCriteria logic)
        ((each Condition.normalize s cs).run cache).1).flatMap Stored.Condition.entries
      = cs.flatMap Condition.lookedUp := by
  rw [Stored.flatMap_numbered (h := fun c => (Stored.Condition.ofCriteria logic 0 c).entries)]
  · exact flatMap_each (fun clock c cache =>
      c.entries_ofCriteria (s.during clock) cache logic 0) cs cache
  · intro id c
    match c with
    | .attribute a => rfl
    | .event e => rfl

/-- Groups are stored in order with the datasets and names that were looked up. -/
theorem entries_numbered_groups (logic : Logic) (gs : List Group) :
    (Stored.numbered (Stored.Group.ofCriteria logic)
        ((each Group.normalize s gs).run cache).1).flatMap Stored.Group.entries
      = gs.flatMap fun g => g.conditions.flatMap Condition.lookedUp := by
  rw [Stored.flatMap_numbered (f := Stored.Group.ofCriteria logic)
    (h := fun g => (Stored.Group.ofCriteria logic 0 g).entries) fun _ _ => rfl]
  exact flatMap_each (fun clock g cache =>
    entries_numbered (s.during clock) cache logic g.conditions) gs cache

/-- **Normalizing and storing agree**: a tree is stored with the datasets and names that were looked up,
condition by condition. -/
theorem Tree.entries_ofCriteria (t : Tree) :
    (Stored.Tree.ofCriteria ((t.normalize s).run cache).1).attributes.map Stored.Attribute.entry
      = t.lookedUp := by
  rw [Stored.Tree.map_entry_attributes, Tree.lookedUp, ← entries_numbered s.first cache t.logic,
    ← entries_numbered_groups s.rest ((each Condition.normalize s.first t.conditions).run cache).2
      t.logic]
  rfl

end Criteria

/-! ## What the compiler finds -/

/-- No column has a blank dataset. -/
theorem Catalog.lookup_of_isAllBlank {dataset : String} (h : Text.isAllBlank dataset = true)
    (column : String) : lookup dataset column = none := by
  have hnames : ∀ c ∈ columns, Text.isAllBlank c.dataset.name = false := by decide
  refine List.find?_eq_none.2 fun c hc heq => ?_
  rw [Bool.and_eq_true, beq_iff_eq] at heq
  rw [← heq.1, hnames c hc] at h
  simp at h

/-- What is looked up for a stored condition is the column that the compiler finds, unless the dataset is
blank and the column more than plain text. -/
theorem Stored.Attribute.entry_eq_iff {a : Stored.Attribute} {c : Column}
    (h : a.catalogColumn = .ok c) :
    a.entry = (c.type, c.mapping) ↔
      Text.isAllBlank a.dataset = false ∨ (c.type = .text ∧ c.mapping = none) := by
  simp only [catalogColumn] at h
  simp only [entry, Catalog.fieldType, Catalog.mapping]
  cases hblank : Text.isAllBlank a.dataset with
  | true =>
      rw [Catalog.lookup_of_isAllBlank hblank]
      simp [eq_comm]
  | false =>
      rw [hblank, if_neg Bool.false_ne_true] at h
      cases hfound : Catalog.lookup a.dataset a.column with
      | none => simp [hfound] at h
      | some c' =>
          simp only [hfound, Except.ok.injEq] at h
          subst h
          simp

/-- **When normalizing and compiling agree on the column.** Whatever the resolver, its store, the deadline
and the cache: if the compiler finds the column of the condition at some place of a tree that was
normalized and stored, then its type and mappings are those that were looked up at that place, unless the
dataset is blank and the column more than plain text, and only then. -/
theorem Criteria.Tree.lookedUp_eq_column_iff {s : Setting} {cache : Cache} {t : Tree} {i : Nat}
    {a : Stored.Attribute} {c : Column}
    (hplace : (Stored.Tree.ofCriteria ((t.normalize s).run cache).1).attributes[i]? = some a)
    (hcolumn : a.catalogColumn = .ok c) :
    t.lookedUp[i]? = some (c.type, c.mapping) ↔
      Text.isAllBlank a.dataset = false ∨ (c.type = .text ∧ c.mapping = none) := by
  rw [← t.entries_ofCriteria s cache, List.getElem?_map, hplace, Option.map_some, Option.some.injEq]
  exact Stored.Attribute.entry_eq_iff hcolumn

/-- Customers with a transaction of more than 100, where the dataset may be given. -/
def Criteria.largeOrders (dataset : Option String) : Criteria.Tree :=
  ⟨[.attribute ⟨dataset, some "total_amount", some "greater_than", .int 100, .null⟩], [], .and⟩

/-- How a condition on the amount of a transaction is stored. -/
def Stored.amount (dataset operator : String) : Stored.Attribute :=
  ⟨1, dataset, "total_amount", operator, "100", "", .and, false, false⟩

/-- Where no dataset is given, all agree. -/
theorem Criteria.Tree.lookedUp_eq_column_iff_largeOrders :
    (Stored.Tree.ofCriteria (((largeOrders none).normalize ⟨.standalone, .none, 2025⟩).run
        Cache.standard).1).attributes[0]? = some (Stored.amount "transactions" "greater_than") ∧
    (Stored.amount "transactions" "greater_than").catalogColumn
      = .ok ⟨.transactions, "total_amount", .number, none⟩ ∧
    (largeOrders none).lookedUp[0]? = some (.number, none) := by
  have hplace : (Stored.Tree.ofCriteria (((largeOrders none).normalize
      ⟨.standalone, .none, 2025⟩).run Cache.standard).1).attributes[0]?
        = some (Stored.amount "transactions" "greater_than") := by decide +kernel
  have hcolumn : (Stored.amount "transactions" "greater_than").catalogColumn
      = .ok ⟨.transactions, "total_amount", .number, none⟩ := rfl
  exact ⟨hplace, hcolumn, (lookedUp_eq_column_iff hplace hcolumn).2 (Or.inl (by decide))⟩

/-- Where a blank dataset is given, the compiler finds a column of numbers, but the operator was looked up
for texts, and so another one is stored. -/
theorem Criteria.lookedUp_ne_column_largeOrders :
    (Stored.Tree.ofCriteria (((largeOrders (some "")).normalize ⟨.standalone, .none, 2025⟩).run
        Cache.standard).1).attributes[0]? = some (Stored.amount "" "equals") ∧
    (Stored.amount "" "equals").catalogColumn
      = .ok ⟨.transactions, "total_amount", .number, none⟩ ∧
    (largeOrders (some "")).lookedUp[0]? ≠ some (.number, none) :=
  ⟨by decide +kernel, rfl, by decide⟩

end Audience
