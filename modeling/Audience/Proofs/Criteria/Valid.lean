import Audience.Proofs.Criteria.Normal
import Audience.Proofs.Criteria.Registered

set_option autoImplicit false

/-! # Valid criteria

Criteria are valid when they are within the vocabulary and every text in a column with mappings is a standard
value already, one of a rule or one of a record (`Tree.Valid`). Normalizing leaves valid criteria alone, and the
cache as well: no value is resolved, so nothing is looked up in the cache or brought into it
(`Tree.normalize_valid`). -/

namespace Audience

open Mapping (Cache Resolver rulesOf)

/-! ## Steps that leave the cache alone -/

/-- A step that gives a value and leaves the cache as it is, whatever it holds. -/
def Leaves {α : Type} (m : StateM Cache α) (x : α) : Prop :=
  ∀ cache, m.run cache = (x, cache)

namespace Leaves

variable {α β : Type}

theorem pure (x : α) : Leaves (Pure.pure x) x :=
  fun _ => rfl

theorem bind {m : StateM Cache α} {f : α → StateM Cache β} {x : α} {y : β} (hm : Leaves m x)
    (hf : Leaves (f x) y) : Leaves (m >>= f) y := by
  intro cache
  rw [StateT.run_bind, hm cache]
  exact hf cache

/-- A pass over items that are left as they are leaves their list. -/
theorem each {s : Criteria.Setting} (hs : s.InTime) {f : Criteria.Setting → α → StateM Cache α}
    {xs : List α} (h : ∀ x ∈ xs, Leaves (f s x) x) : Leaves (Criteria.each f s xs) xs := by
  induction xs with
  | nil => exact .pure []
  | cons x xs ih =>
      obtain ⟨hx, hxs⟩ := List.forall_mem_cons.1 h
      rw [Criteria.each, hs.first_eq, hs.rest_eq]
      exact hx.bind ((ih hxs).bind (.pure _))

end Leaves

/-! ## What stays as it is in the vocabulary -/

/-- The code of a term is the code of the term that it names. -/
theorem Term.IsCode.code_parse {α : Type} [Term α] [LawfulTerm α] {raw : String} (h : Term.IsCode α raw) :
    Term.code (Term.parse raw : α) = raw := by
  obtain ⟨t, -, rfl⟩ := List.mem_map.1 h
  rw [Term.parse_code]

/-- A registered operator stands for itself. -/
theorem FieldType.Registers.matchOperator_eq {t : FieldType} {code : String} (h : t.Registers code) :
    (t.matchOperator code).code = code := by
  obtain ⟨op, hop, rfl⟩ := h
  exact matchOperator_code hop

theorem FieldType.Registers.ne_ageBetween {t : FieldType} {code : String} (h : t.Registers code) :
    code ≠ ageBetween := by
  rw [← h.matchOperator_eq]
  exact t.matchOperator_ne_ageBetween code

namespace Criteria

theorem unitOf?_isCode {raw : String} (h : Term.IsCode TimeUnit raw) :
    Term.code ((unitOf? raw).getD Term.fallback) = raw := by
  obtain ⟨u, -, rfl⟩ := List.mem_map.1 h
  rw [unitOf?_code, Option.getD_some]

theorem max_eq_self {n : Int64} (h : 0 ≤ n) : max n 0 = n := by
  by_cases hn : n ≤ 0
  · simp [max, Int64.le_antisymm hn h]
  · simp [max, hn]

theorem Frequency.normalize_eq_self {f : Frequency}
    (h : Term.IsCode Qualifier f.qualifier ∧ 0 ≤ f.count) : f.normalize = f := by
  rw [normalize, h.1.code_parse, max_eq_self h.2]

theorem Period.normalize_eq_self {p : Period} (h : Term.IsCode TimeUnit p.unit ∧ 0 ≤ p.length) :
    p.normalize = p := by
  rw [normalize, unitOf?_isCode h.1, max_eq_self h.2]

theorem option_map_eq_self {α : Type} {f : α → α} {o : Option α} (h : ∀ x ∈ o, f x = x) : o.map f = o :=
  (Option.map_congr h).trans Option.map_id'

/-! ## Standard values -/

/-- A standard value of a category: one of a rule, or one of a record in the store. -/
def Setting.HasStandard (s : Setting) (category : Category) (value : String) : Prop :=
  (∃ set ∈ rulesOf category, ∃ rule ∈ set.rules, rule.standard = value) ∨
    ∃ record ∈ s.resolver.store.recordsOf category.name, record.standard = value

instance (s : Setting) (category : Category) (value : String) : Decidable (s.HasStandard category value) :=
  inferInstanceAs (Decidable (
    (∃ set ∈ rulesOf category, ∃ rule ∈ set.rules, rule.standard = value) ∨
      ∃ record ∈ s.resolver.store.recordsOf category.name, record.standard = value))

/-- A value that is no text or blank, or a standard value of the category of its column, if there is one. -/
def Setting.IsStandardIn (s : Setting) (mapping : Option Category) : Scalar → Prop
  | .text raw => ∀ category ∈ mapping, Text.isAllBlank raw = false → s.HasStandard category raw
  | _ => True

instance (s : Setting) (mapping : Option Category) (value : Scalar) :
    Decidable (s.IsStandardIn mapping value) :=
  match value with
  | .text raw => inferInstanceAs (Decidable
      (∀ category ∈ mapping, Text.isAllBlank raw = false → s.HasStandard category raw))
  | .null | .bool _ | .int _ | .float _ => .isTrue trivial

/-- A condition whose values are standard values as far as its column has mappings. -/
def Attribute.IsStandard (s : Setting) (a : Attribute) : Prop :=
  ∀ dataset ∈ a.dataset,
    s.IsStandardIn (Catalog.mapping dataset (a.field.getD "")) a.value ∧
      s.IsStandardIn (Catalog.mapping dataset (a.field.getD "")) a.value2

instance (s : Setting) (a : Attribute) : Decidable (a.IsStandard s) :=
  inferInstanceAs (Decidable (∀ dataset ∈ a.dataset,
    s.IsStandardIn (Catalog.mapping dataset (a.field.getD "")) a.value ∧
      s.IsStandardIn (Catalog.mapping dataset (a.field.getD "")) a.value2))

/-- A condition whose values are standard values, also where it is one on events. -/
def Condition.IsStandard (s : Setting) : Condition → Prop
  | .attribute a => a.IsStandard s
  | .event e => ∀ a ∈ e.attributes, a.IsStandard s

instance (s : Setting) : (c : Condition) → Decidable (c.IsStandard s)
  | .attribute a => inferInstanceAs (Decidable (a.IsStandard s))
  | .event e => inferInstanceAs (Decidable (∀ a ∈ e.attributes, a.IsStandard s))

/-- Criteria within the vocabulary whose values are standard values. -/
structure Tree.Valid (s : Setting) (t : Tree) : Prop where
  vocabulary : t.InVocabulary
  conditions : ∀ c ∈ t.conditions, c.IsStandard s
  groups : ∀ g ∈ t.groups, ∀ c ∈ g.conditions, c.IsStandard s

instance (s : Setting) (t : Tree) : Decidable (t.Valid s) :=
  decidable_of_iff
    (t.InVocabulary ∧ (∀ c ∈ t.conditions, c.IsStandard s) ∧
      ∀ g ∈ t.groups, ∀ c ∈ g.conditions, c.IsStandard s)
    ⟨fun ⟨hvocabulary, hconditions, hgroups⟩ => ⟨hvocabulary, hconditions, hgroups⟩,
    fun h => ⟨h.vocabulary, h.conditions, h.groups⟩⟩

section

variable {s : Setting}

theorem Setting.HasStandard.isStandard (hs : s.InTime) {category : Category} {value : String}
    (h : s.HasStandard category value) : s.resolver.isStandard .none category.name value = true := by
  rcases h with ⟨set, hset, rule, hrule, rfl⟩ | ⟨record, hrecord, rfl⟩
  · exact Resolver.isStandard_of_rule hs.answers ((Mapping.ruleSet?_name category).trans hset) hrule
  · exact Resolver.isStandard_of_record hs.answers hrecord

/-- A standard value is not resolved. -/
theorem leaves_standardizeIn (hs : s.InTime) {mapping : Option Category} {value : Scalar}
    (h : s.IsStandardIn mapping value) : Leaves (s.standardizeIn mapping value) value := by
  cases mapping with
  | none => exact .pure value
  | some category =>
      cases value with
      | text raw =>
          simp only [Setting.standardizeIn, Setting.standardize, hs.now_eq]
          cases hblank : Text.isAllBlank raw with
          | true => exact .pure _
          | false =>
              have hstandard := (h category rfl hblank).isStandard hs
              simp only [Resolver.standardize, hstandard, if_true, Bool.false_eq_true, if_false]
              exact .pure _
      | _ => exact .pure _

/-! ## Valid criteria are left alone -/

theorem Attribute.leaves_normalize (hs : s.InTime) (fallback : Dataset) {a : Attribute}
    (hvocabulary : a.InVocabulary) (hstandard : a.IsStandard s) : Leaves (a.normalize s fallback) a := by
  obtain ⟨dataset, field, operator, value, value2⟩ := a
  obtain ⟨dataset, rfl, code, rfl, hcode⟩ := hvocabulary
  obtain ⟨hvalue, hvalue2⟩ := hstandard dataset rfl
  have hages : (Attribute.mk (some dataset) field (some code) value value2).birthDates? s.year = none :=
    Attribute.birthDates?_of_ne (by simpa using hcode.ne_ageBetween) s.year
  simp only [Attribute.normalize, hages, Attribute.datasetOr, Option.getD_some, hcode.matchOperator_eq,
    hs.first_eq, hs.rest_eq]
  exact (leaves_standardizeIn hs hvalue).bind ((leaves_standardizeIn hs hvalue2).bind (.pure _))

theorem Event.leaves_normalize (hs : s.InTime) {e : Event} (hvocabulary : e.InVocabulary)
    (hstandard : ∀ a ∈ e.attributes, a.IsStandard s) : Leaves (e.normalize s) e := by
  have hattributes : Leaves (each (Attribute.normalize · .transactions) s e.attributes) e.attributes :=
    .each hs fun a ha => a.leaves_normalize hs .transactions (hvocabulary.attributes a ha) (hstandard a ha)
  obtain ⟨code, htype, hcode⟩ := hvocabulary.type
  have hoperator : e.operator.map (fun raw => (FieldType.number.matchOperator raw).code) = e.operator :=
    option_map_eq_self fun code hcode => (hvocabulary.operator code hcode).matchOperator_eq
  have hfrequency : e.frequency.map Frequency.normalize = e.frequency :=
    option_map_eq_self fun f hf => f.normalize_eq_self (hvocabulary.frequency f hf)
  have hperiod : e.period.map Period.normalize = e.period :=
    option_map_eq_self fun p hp => p.normalize_eq_self (hvocabulary.period p hp)
  refine hattributes.bind ?_
  rw [hoperator, hfrequency, hperiod, Option.mem_def.1 htype, Option.map_some, Option.getD_some,
    hcode.code_parse, ← Option.mem_def.1 htype]
  exact .pure e

theorem Condition.leaves_normalize (hs : s.InTime) {c : Condition} (hvocabulary : c.InVocabulary)
    (hstandard : c.IsStandard s) : Leaves (c.normalize s) c :=
  match c with
  | .attribute _ => (Attribute.leaves_normalize hs .customers hvocabulary hstandard).bind (.pure _)
  | .event _ => (Event.leaves_normalize hs hvocabulary hstandard).bind (.pure _)

theorem Group.leaves_normalize (hs : s.InTime) {g : Group} (hvocabulary : g.InVocabulary)
    (hstandard : ∀ c ∈ g.conditions, c.IsStandard s) : Leaves (g.normalize s) g := by
  have hconditions : Leaves (each Condition.normalize s g.conditions) g.conditions :=
    .each hs fun c hc => c.leaves_normalize hs (hvocabulary c hc) (hstandard c hc)
  exact hconditions.bind (.pure _)

/-- **Valid criteria are left alone.** Whatever the year, the threshold and the records of a store that answers
in time: normalizing gives a valid tree itself, and the cache it was given. -/
theorem Tree.normalize_valid (hs : s.InTime) {t : Tree} (h : t.Valid s) (cache : Cache) :
    (t.normalize s).run cache = (t, cache) := by
  obtain ⟨hconditions, hgroups⟩ := h.vocabulary
  have hconditions : Leaves (each Condition.normalize s t.conditions) t.conditions :=
    .each hs fun c hc => c.leaves_normalize hs (hconditions c hc) (h.conditions c hc)
  have hgroups : Leaves (each Group.normalize s t.groups) t.groups :=
    .each hs fun g hg => g.leaves_normalize hs (hgroups g hg) (h.groups g hg)
  have hnormalize : Leaves (t.normalize s) t := by
    rw [normalize, hs.first_eq, hs.rest_eq]
    exact hconditions.bind (hgroups.bind (.pure _))
  exact hnormalize cache

end

/-- A setting whose store knows a standard value for a city and one for a category of products. -/
def stocked : Setting where
  resolver := {
    store := ⟨.memory [⟨"city", "dn", "Da Nang"⟩, ⟨"product_category", "phones", "Electronics"⟩], none, none⟩
    scope := "shop"
    threshold := 0.5 }
  deadline := .none
  year := 2025

/-- Customers in a city of the store who bought a product of its category, and are not women or have no gender. -/
def electronicsBuyers : Tree where
  conditions := [
    .attribute ⟨some "customers", some "city", some "equals", .text "Da Nang", .null⟩,
    .event {
      name := "purchase"
      type := some "performed"
      operator := some "greater_than"
      value := .int 100
      frequency := some ⟨"at_least", 2⟩
      period := some ⟨"months", 6⟩
      attributes := [⟨some "product_lines", some "category", some "equals", .text "Electronics", .null⟩] }]
  groups := [⟨.or, [
    .attribute ⟨some "customers", some "gender", some "not_equals", .text "F", .text " "⟩,
    .attribute ⟨some "customers", some "gender", some "is_null", .null, .null⟩]⟩]
  logic := .and

theorem normalize_valid_electronicsBuyers :
    stocked.InTime ∧ electronicsBuyers.Valid stocked ∧
      (electronicsBuyers.normalize stocked).run Cache.standard = (electronicsBuyers, Cache.standard) := by
  have htime : stocked.InTime := ⟨rfl, rfl, rfl⟩
  have hvalid : electronicsBuyers.Valid stocked := by decide +kernel
  exact ⟨htime, hvalid, Tree.normalize_valid htime hvalid Cache.standard⟩

end Criteria

end Audience
