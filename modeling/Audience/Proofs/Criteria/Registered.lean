import Audience.Proofs.Criteria.Passes
import Audience.Proofs.Criteria.Vocabulary

set_option autoImplicit false

/-! # Criteria within the vocabulary

Criteria are within the vocabulary when every operator is registered for the type of its column, every
event type, qualifier and unit is the code of a term, and no count or length is negative
(`Tree.InVocabulary`). Normalizing brings criteria there whatever they say, with one exception: an age
range becomes the operator `between` in whichever column it stands, and only columns of numbers and dates
have that operator. So what normalizing gives is within the vocabulary when age ranges stand in such
columns, and only then (`Tree.inVocabulary_normalize_iff`). What the store, the deadline and the cache
have to say about values plays no part. -/

namespace Audience

/-- A text that is the code of a term. -/
def Term.IsCode (α : Type) [Term α] (raw : String) : Prop :=
  raw ∈ (Term.all (α := α)).map Term.code

instance (α : Type) [Term α] (raw : String) : Decidable (Term.IsCode α raw) :=
  inferInstanceAs (Decidable (raw ∈ (Term.all (α := α)).map Term.code))

/-- A term that its code names is on the list. -/
theorem Term.isCode_code {α : Type} [Term α] [LawfulTerm α] (t : α) : Term.IsCode α (Term.code t) := by
  have hfind : Term.parse? (Term.code t) = some t := Term.parse?_code t
  exact List.mem_map_of_mem (List.mem_of_find?_eq_some hfind)

/-- Operators are registered by their codes. -/
def FieldType.Registers (t : FieldType) (code : String) : Prop :=
  ∃ op ∈ t.operators, op.code = code

instance (t : FieldType) (code : String) : Decidable (t.Registers code) :=
  inferInstanceAs (Decidable (∃ op ∈ t.operators, op.code = code))

/-- Whatever operator is asked for, the one that is taken is registered. -/
theorem FieldType.registers_matchOperator (t : FieldType) (raw : String) :
    t.Registers (t.matchOperator raw).code :=
  ⟨_, t.mem_operators_matchOperator raw, rfl⟩

/-- The types that have ranges. -/
theorem FieldType.registers_between_iff (t : FieldType) :
    t.Registers "between" ↔ t.hasRanges = true := by
  cases t <;> decide

theorem zero_le_max_zero (n : Int64) : 0 ≤ max n 0 := by
  by_cases h : n ≤ 0
  · simp [max, h]
  · simp only [max, h, if_false]
    exact Int64.le_of_lt (Int64.not_le.1 h)

namespace Criteria

open Mapping (Cache)

/-! ## Within the vocabulary -/

/-- A condition on a column has a dataset and an operator, which is registered for its column. -/
def Attribute.InVocabulary (a : Attribute) : Prop :=
  ∃ dataset ∈ a.dataset, ∃ code ∈ a.operator,
    (Catalog.fieldType dataset (a.field.getD "")).Registers code

instance (a : Attribute) : Decidable a.InVocabulary :=
  inferInstanceAs (Decidable (∃ dataset ∈ a.dataset, ∃ code ∈ a.operator,
    (Catalog.fieldType dataset (a.field.getD "")).Registers code))

/-- A condition on events speaks in codes throughout, and counts nothing below zero. -/
structure Event.InVocabulary (e : Event) : Prop where
  type : ∃ code ∈ e.type, Term.IsCode EventType code
  operator : ∀ code ∈ e.operator, FieldType.number.Registers code
  frequency : ∀ f ∈ e.frequency, Term.IsCode Qualifier f.qualifier ∧ 0 ≤ f.count
  period : ∀ p ∈ e.period, Term.IsCode TimeUnit p.unit ∧ 0 ≤ p.length
  attributes : ∀ a ∈ e.attributes, a.InVocabulary

instance (e : Event) : Decidable e.InVocabulary :=
  decidable_of_iff
    ((∃ code ∈ e.type, Term.IsCode EventType code) ∧
      (∀ code ∈ e.operator, FieldType.number.Registers code) ∧
      (∀ f ∈ e.frequency, Term.IsCode Qualifier f.qualifier ∧ 0 ≤ f.count) ∧
      (∀ p ∈ e.period, Term.IsCode TimeUnit p.unit ∧ 0 ≤ p.length) ∧
      ∀ a ∈ e.attributes, a.InVocabulary)
    ⟨fun ⟨htype, hoperator, hfrequency, hperiod, hattributes⟩ =>
      ⟨htype, hoperator, hfrequency, hperiod, hattributes⟩,
    fun h => ⟨h.type, h.operator, h.frequency, h.period, h.attributes⟩⟩

/-- A condition of either kind. -/
def Condition.InVocabulary : Condition → Prop
  | .attribute a => a.InVocabulary
  | .event e => e.InVocabulary

instance : (c : Condition) → Decidable c.InVocabulary
  | .attribute a => inferInstanceAs (Decidable a.InVocabulary)
  | .event e => inferInstanceAs (Decidable e.InVocabulary)

/-- A group whose members are within the vocabulary. -/
def Group.InVocabulary (g : Group) : Prop :=
  ∀ c ∈ g.conditions, c.InVocabulary

instance (g : Group) : Decidable g.InVocabulary :=
  inferInstanceAs (Decidable (∀ c ∈ g.conditions, c.InVocabulary))

/-- A tree whose conditions are within the vocabulary, at the root and in groups. -/
def Tree.InVocabulary (t : Tree) : Prop :=
  (∀ c ∈ t.conditions, c.InVocabulary) ∧ ∀ g ∈ t.groups, g.InVocabulary

instance (t : Tree) : Decidable t.InVocabulary :=
  inferInstanceAs
    (Decidable ((∀ c ∈ t.conditions, c.InVocabulary) ∧ ∀ g ∈ t.groups, g.InVocabulary))

/-! ## Age ranges in columns with ranges -/

/-- A condition that asks for birth dates, if at all, in a column that has ranges. -/
def Attribute.AgesFit (year : Int) (fallback : Dataset) (a : Attribute) : Prop :=
  a.birthDates? year ≠ none →
    (Catalog.fieldType (a.datasetOr fallback) (a.field.getD "")).hasRanges = true

/-- A condition whose age ranges stand in columns with ranges. -/
def Condition.AgesFit (year : Int) : Condition → Prop
  | .attribute a => a.AgesFit year .customers
  | .event e => ∀ a ∈ e.attributes, a.AgesFit year .transactions

/-- A tree whose age ranges stand in columns with ranges. -/
def Tree.AgesFit (year : Int) (t : Tree) : Prop :=
  (∀ c ∈ t.conditions, c.AgesFit year) ∧ ∀ g ∈ t.groups, ∀ c ∈ g.conditions, c.AgesFit year

/-! ## What normalizing gives -/

variable (s : Setting) (cache : Cache)

theorem Attribute.normalize_inVocabulary_iff (fallback : Dataset) (a : Attribute) :
    ((a.normalize s fallback).run cache).1.InVocabulary ↔ a.AgesFit s.year fallback := by
  cases h : a.birthDates? s.year with
  | some dates =>
      -- The operator is put in place without a look at the column.
      have hrun : ((a.normalize s fallback).run cache).1
          = ⟨some (a.datasetOr fallback), a.field, some "between", .text dates.1,
            .text dates.2⟩ := by
        unfold Attribute.normalize
        rw [h]
        rfl
      rw [hrun]
      simp [InVocabulary, AgesFit, h, FieldType.registers_between_iff]
  | none =>
      refine iff_of_true ?_ fun hages => absurd h hages
      have hrun : ∃ value value2, ((a.normalize s fallback).run cache).1
          = ⟨some (a.datasetOr fallback), a.field,
            some ((Catalog.fieldType (a.datasetOr fallback) (a.field.getD "")).matchOperator
              (a.operator.getD "")).code, value, value2⟩ := by
        unfold Attribute.normalize
        rw [h]
        exact ⟨_, _, rfl⟩
      obtain ⟨value, value2, hrun⟩ := hrun
      rw [hrun]
      exact ⟨_, rfl, _, rfl, FieldType.registers_matchOperator _ _⟩

theorem Frequency.isCode_normalize (f : Frequency) :
    Term.IsCode Qualifier f.normalize.qualifier ∧ 0 ≤ f.normalize.count := by
  simp only [Frequency.normalize]
  exact ⟨Term.isCode_code _, zero_le_max_zero _⟩

theorem Period.isCode_normalize (p : Period) :
    Term.IsCode TimeUnit p.normalize.unit ∧ 0 ≤ p.normalize.length := by
  simp only [Period.normalize]
  exact ⟨Term.isCode_code _, zero_le_max_zero _⟩

theorem Event.normalize_inVocabulary_iff (e : Event) :
    ((e.normalize s).run cache).1.InVocabulary ↔ ∀ a ∈ e.attributes, a.AgesFit s.year .transactions := by
  rw [← forall_mem_each_iff (f := (Attribute.normalize · .transactions)) (s := s)
    (p := Attribute.InVocabulary)
    (fun a _ clock cache => a.normalize_inVocabulary_iff (s.during clock) cache .transactions) cache]
  constructor
  · exact fun h => h.attributes
  · intro hattributes
    refine ⟨⟨_, rfl, Term.isCode_code _⟩, fun code hcode => ?_, fun f hf => ?_, fun p hp => ?_,
      hattributes⟩
    · obtain ⟨raw, _, rfl⟩ := Option.map_eq_some_iff.1 hcode
      exact FieldType.number.registers_matchOperator raw
    · obtain ⟨f, _, rfl⟩ := Option.map_eq_some_iff.1 hf
      exact f.isCode_normalize
    · obtain ⟨p, _, rfl⟩ := Option.map_eq_some_iff.1 hp
      exact p.isCode_normalize

theorem Condition.normalize_inVocabulary_iff (c : Condition) :
    ((c.normalize s).run cache).1.InVocabulary ↔ c.AgesFit s.year :=
  match c with
  | .attribute a => a.normalize_inVocabulary_iff s cache .customers
  | .event e => e.normalize_inVocabulary_iff s cache

theorem Group.normalize_inVocabulary_iff (g : Group) :
    ((g.normalize s).run cache).1.InVocabulary ↔ ∀ c ∈ g.conditions, c.AgesFit s.year :=
  forall_mem_each_iff
    (fun c _ clock cache => c.normalize_inVocabulary_iff (s.during clock) cache) cache

/-- **When normal criteria are within the vocabulary.** Whatever the tree, the year, the resolver, its
store, the deadline and the cache: what normalizing gives is within the vocabulary if every age range that
is put into birth dates stands in a column that has ranges, and only then. -/
theorem Tree.inVocabulary_normalize_iff (t : Tree) :
    ((t.normalize s).run cache).1.InVocabulary ↔ t.AgesFit s.year := by
  refine and_congr (forall_mem_each_iff (fun c _ clock cache => ?_) cache)
    (forall_mem_each_iff (fun g _ clock cache => ?_) _)
  · exact c.normalize_inVocabulary_iff (s.during clock) cache
  · exact g.normalize_inVocabulary_iff (s.during clock) cache

/-- A tree that asks for an age range in a column of texts. -/
def agesOfEmail : Tree :=
  ⟨[.attribute ⟨some "customers", some "email", some ageBetween, .int 20, .int 30⟩], [], .and⟩

/-- Texts have no ranges, and so the operator that an age range becomes is not registered for them. -/
theorem not_inVocabulary_normalize_agesOfEmail :
    ¬ ((agesOfEmail.normalize ⟨.standalone, .none, 2025⟩).run Cache.standard).1.InVocabulary := by
  intro h
  have hconditions : ∀ c ∈ agesOfEmail.conditions, c.AgesFit 2025 :=
    (forall_mem_each_iff (s := ⟨.standalone, .none, 2025⟩)
      (fun c _ clock cache => c.normalize_inVocabulary_iff ⟨.standalone, clock, 2025⟩ cache)
      Cache.standard).1 h.1
  have hages : birthDates? 2025 20 30 ≠ none := by decide +kernel
  exact absurd (hconditions _ (List.mem_singleton_self _) hages) (by decide)

end Criteria

end Audience
