import Audience.Proofs.Criteria.Vocabulary
import Audience.Proofs.Mapping.Standardize

set_option autoImplicit false

/-! # Normal criteria are normal

Over a faithful cache normalizing gives every tree one normal form (`Tree.normal`), and a normal form is
left alone by normalizing it again, but for two kinds of conditions. An age range is put into birth dates
in any column, and if the column has no ranges, its operator is replaced the next time; and a city that
nobody knows is written with capitals, which may stand for something else than its letters.
`Tree.Settles` says that a tree has neither, and `Tree.normalizeTwice_eq_iff` that it then, and only
then, comes out the same the second time. -/

namespace Audience.Criteria

open Mapping (Cache Yields)

/-! ## Normal forms -/

/-- Every question to the store is answered, and there is no deadline. -/
structure Setting.InTime (s : Setting) : Prop where
  deadline : s.deadline = .none
  answers : s.resolver.Answers

theorem Setting.InTime.now_eq {s : Setting} (hs : s.InTime) : s.deadline.now = .none := by
  rw [hs.deadline]
  rfl

/-- Without a deadline the parts of a run go by the same as the whole. -/
theorem Setting.InTime.first_eq {s : Setting} (hs : s.InTime) : s.first = s := by
  rw [Setting.first, hs.deadline]
  exact congrArg (Setting.mk s.resolver · s.year) hs.deadline.symm

theorem Setting.InTime.rest_eq {s : Setting} (hs : s.InTime) : s.rest = s := by
  rw [Setting.rest, hs.deadline]
  exact congrArg (Setting.mk s.resolver · s.year) hs.deadline.symm

/-- The standard value of a value in a column that may have mappings. -/
def Setting.standardIn (s : Setting) (mapping : Option Category) (value : Scalar) : Scalar :=
  match mapping, value with
  | some category, .text raw =>
    if Text.isAllBlank raw then .text raw else .text (s.resolver.standardOf category.name raw)
  | _, _ => value

/-- The normal form of a condition on a column. -/
def Attribute.normal (s : Setting) (fallback : Dataset) (a : Attribute) : Attribute :=
  let dataset := a.datasetOr fallback
  let column := a.field.getD ""
  match a.birthDates? s.year with
  | some (first, last) => ⟨some dataset, a.field, some "between", .text first, .text last⟩
  | none =>
    let operator := ((Catalog.fieldType dataset column).matchOperator (a.operator.getD "")).code
    let mapping := Catalog.mapping dataset column
    ⟨some dataset, a.field, some operator, s.standardIn mapping a.value, s.standardIn mapping a.value2⟩

/-- The normal form of a condition on events. -/
def Event.normal (s : Setting) (e : Event) : Event where
  name := e.name
  type := some (Term.code ((e.type.map Term.parse).getD Term.fallback : EventType))
  operator := e.operator.map fun raw => (FieldType.number.matchOperator raw).code
  value := e.value
  frequency := e.frequency.map Frequency.normalize
  period := e.period.map Period.normalize
  attributes := e.attributes.map (Attribute.normal s .transactions)

/-- The normal form of a condition. -/
def Condition.normal (s : Setting) : Condition → Condition
  | .attribute a => .attribute (a.normal s .customers)
  | .event e => .event (e.normal s)

/-- The normal form of a group. -/
def Group.normal (s : Setting) (g : Group) : Group :=
  ⟨g.logic, g.conditions.map (Condition.normal s)⟩

/-- The normal form of a tree. -/
def Tree.normal (s : Setting) (t : Tree) : Tree :=
  ⟨t.conditions.map (Condition.normal s), t.groups.map (Group.normal s), t.logic⟩

/-! ## Normalizing gives the normal form -/

section Yields

variable {s : Setting}

/-- Items that have one result each have one list of results. -/
theorem yields_each (hs : s.InTime) {α β : Type} {f : Setting → α → StateM Cache β} {g : α → β}
    (h : ∀ x, Yields s.resolver (f s x) (g x)) (xs : List α) :
    Yields s.resolver (each f s xs) (xs.map g) := by
  induction xs with
  | nil => exact .pure []
  | cons x xs ih =>
      rw [each, hs.first_eq, hs.rest_eq]
      exact (h x).bind (ih.bind (.pure _))

theorem yields_standardizeIn (hs : s.InTime) (mapping : Option Category) (value : Scalar) :
    Yields s.resolver (s.standardizeIn mapping value) (s.standardIn mapping value) := by
  cases mapping with
  | none => exact .pure value
  | some category =>
      cases value with
      | text raw =>
          simp only [Setting.standardizeIn, Setting.standardize, Setting.standardIn, hs.now_eq]
          split
          · exact .pure _
          · exact (Mapping.Resolver.yields_standardize hs.answers category.name raw).bind (.pure _)
      | _ => exact .pure _

theorem Attribute.yields_normalize (hs : s.InTime) (fallback : Dataset) (a : Attribute) :
    Yields s.resolver (a.normalize s fallback) (a.normal s fallback) := by
  simp only [Attribute.normalize, Attribute.normal, hs.first_eq, hs.rest_eq]
  cases a.birthDates? s.year with
  | some dates => exact .pure _
  | none =>
      refine (yields_standardizeIn hs _ a.value).bind ?_
      exact (yields_standardizeIn hs _ a.value2).bind (.pure _)

theorem Event.yields_normalize (hs : s.InTime) (e : Event) :
    Yields s.resolver (e.normalize s) (e.normal s) :=
  (yields_each hs (Attribute.yields_normalize hs .transactions) e.attributes).bind (.pure _)

theorem Condition.yields_normalize (hs : s.InTime) (c : Condition) :
    Yields s.resolver (c.normalize s) (c.normal s) :=
  match c with
  | .attribute a => (a.yields_normalize hs .customers).bind (.pure _)
  | .event e => (e.yields_normalize hs).bind (.pure _)

theorem Group.yields_normalize (hs : s.InTime) (g : Group) :
    Yields s.resolver (g.normalize s) (g.normal s) :=
  (yields_each hs (Condition.yields_normalize hs) g.conditions).bind (.pure _)

/-- Whatever a faithful cache holds, normalizing gives the normal form. -/
theorem Tree.yields_normalize (hs : s.InTime) (t : Tree) :
    Yields s.resolver (t.normalize s) (t.normal s) := by
  rw [normalize, hs.first_eq, hs.rest_eq]
  refine (yields_each hs (Condition.yields_normalize hs) t.conditions).bind ?_
  exact (yields_each hs (Group.yields_normalize hs) t.groups).bind (.pure _)

end Yields

/-! ## Conditions that settle -/

/-- A value whose standard value is its own. -/
def Setting.SettlesIn (s : Setting) (mapping : Option Category) (value : Scalar) : Prop :=
  ∀ category raw, mapping = some category → value = .text raw → s.resolver.Settles category raw

/-- A condition on a column whose normal form is left alone: an age range is asked of a column that has
ranges, and in any other condition the values have standard values of their own. -/
structure Attribute.Settles (s : Setting) (fallback : Dataset) (a : Attribute) : Prop where
  ages : a.birthDates? s.year ≠ none →
    (Catalog.fieldType (a.datasetOr fallback) (a.field.getD "")).hasRanges = true
  values : a.birthDates? s.year = none →
    s.SettlesIn (Catalog.mapping (a.datasetOr fallback) (a.field.getD "")) a.value ∧
      s.SettlesIn (Catalog.mapping (a.datasetOr fallback) (a.field.getD "")) a.value2

/-- A condition on events that puts none but settling conditions on columns. -/
def Event.Settles (s : Setting) (e : Event) : Prop :=
  ∀ a ∈ e.attributes, a.Settles s .transactions

/-- A condition of either kind that settles. -/
def Condition.Settles (s : Setting) : Condition → Prop
  | .attribute a => a.Settles s .customers
  | .event e => e.Settles s

/-- A group of conditions that settle. -/
def Group.Settles (s : Setting) (g : Group) : Prop :=
  ∀ c ∈ g.conditions, c.Settles s

/-- A tree of conditions that settle. -/
def Tree.Settles (s : Setting) (t : Tree) : Prop :=
  (∀ c ∈ t.conditions, c.Settles s) ∧ ∀ g ∈ t.groups, g.Settles s

variable {s : Setting}

theorem standardIn_standardIn_iff (hs : s.InTime) (mapping : Option Category) (value : Scalar) :
    s.standardIn mapping (s.standardIn mapping value) = s.standardIn mapping value ↔
      s.SettlesIn mapping value := by
  cases mapping with
  | none => simp [Setting.standardIn, Setting.SettlesIn]
  | some category =>
      cases value with
      | text raw =>
          have hsettles : s.SettlesIn (some category) (.text raw) ↔
              s.resolver.Settles category raw := by
            simp [Setting.SettlesIn]
          rw [hsettles]
          simp only [Setting.standardIn]
          by_cases hblank : Text.isAllBlank raw = true
          · -- A blank text has no search key, so it is no city that could be written with capitals.
            refine iff_of_true (by simp [hblank]) ?_
            intro _ hcapitalized
            have hkey := hcapitalized.hasKey
            simp [Text.fold_of_isAllBlank hblank] at hkey
          · rw [← Mapping.Resolver.standardOf_standardOf_iff hs.answers, if_neg hblank]
            by_cases hvalue : Text.isAllBlank (s.resolver.standardOf category.name raw) = true
            · simp [hvalue]
            · simp [hvalue]
      | _ => simp [Setting.standardIn, Setting.SettlesIn]

/-! ## Normal forms of normal forms -/

/-- A condition that asks for birth dates. -/
theorem Attribute.normal_of_birthDates {fallback : Dataset} {a : Attribute} {first last : String}
    (h : a.birthDates? s.year = some (first, last)) :
    a.normal s fallback
      = ⟨some (a.datasetOr fallback), a.field, some "between", .text first, .text last⟩ := by
  simp [Attribute.normal, h]

/-- A condition that asks for no birth dates. -/
theorem Attribute.normal_of_none {fallback : Dataset} {a : Attribute}
    (h : a.birthDates? s.year = none) :
    a.normal s fallback
      = ⟨some (a.datasetOr fallback), a.field,
        some ((Catalog.fieldType (a.datasetOr fallback) (a.field.getD "")).matchOperator
          (a.operator.getD "")).code,
        s.standardIn (Catalog.mapping (a.datasetOr fallback) (a.field.getD "")) a.value,
        s.standardIn (Catalog.mapping (a.datasetOr fallback) (a.field.getD "")) a.value2⟩ := by
  simp [Attribute.normal, h]

theorem Attribute.birthDates?_of_ne {a : Attribute} (h : a.operator ≠ some ageBetween) (year : Int) :
    a.birthDates? year = none := by
  simp [Attribute.birthDates?, h]

/-- The normal form of a condition on a column is normal if the condition settles, and only then. -/
theorem Attribute.normal_normal_iff (hs : s.InTime) (fallback : Dataset) (a : Attribute) :
    (a.normal s fallback).normal s fallback = a.normal s fallback ↔ a.Settles s fallback := by
  cases h : a.birthDates? s.year with
  | some dates =>
      obtain ⟨first, last⟩ := dates
      rw [normal_of_birthDates h, normal_of_none (birthDates?_of_ne (by simp [ageBetween]) _)]
      have hbetween := FieldType.matchOperator_between_iff
        (Catalog.fieldType (a.datasetOr fallback) (a.field.getD ""))
      constructor
      · intro heq
        simp only [Attribute.mk.injEq, Option.some.injEq] at heq
        exact ⟨fun _ => hbetween.1 heq.2.2.1, fun hnone => by simp [h] at hnone⟩
      · intro hsettles
        -- A column with ranges is no column of texts, so it has no mappings.
        have hranges := hsettles.ages (by simp [h])
        have hmapping : Catalog.mapping (a.datasetOr fallback) (a.field.getD "") = none := by
          cases hm : Catalog.mapping (a.datasetOr fallback) (a.field.getD "") with
          | none => rfl
          | some category =>
              rw [Catalog.fieldType_of_mapping hm] at hranges
              simp [FieldType.hasRanges] at hranges
        simp only [datasetOr, Option.getD_some] at hbetween hmapping hranges ⊢
        simp [hmapping, hbetween.2 hranges, Setting.standardIn]
  | none =>
      have hop := fun t raw => FieldType.matchOperator_ne_ageBetween t raw
      rw [normal_of_none h, normal_of_none (birthDates?_of_ne (by simpa using hop _ _) _)]
      have hvalue := standardIn_standardIn_iff hs
        (Catalog.mapping (a.datasetOr fallback) (a.field.getD "")) a.value
      have hvalue2 := standardIn_standardIn_iff hs
        (Catalog.mapping (a.datasetOr fallback) (a.field.getD "")) a.value2
      have hdataset : ∀ operator value value2, (Attribute.mk (some (a.datasetOr fallback)) a.field
          operator value value2).datasetOr fallback = a.datasetOr fallback := fun _ _ _ => rfl
      simp only [hdataset, Attribute.mk.injEq, Option.getD_some, true_and,
        FieldType.matchOperator_matchOperator, hvalue, hvalue2]
      constructor
      · exact fun hv => ⟨fun hsome => absurd h hsome, fun _ => hv⟩
      · exact fun hsettles => hsettles.values h

/-- A list of results is left alone if every result is. -/
theorem map_map_eq_iff {α : Type} {f : α → α} {p : α → Prop} (h : ∀ x, f (f x) = f x ↔ p x)
    (xs : List α) : (xs.map f).map f = xs.map f ↔ ∀ x ∈ xs, p x := by
  induction xs with
  | nil => simp
  | cons x xs ih => simp only [List.map_cons, List.cons.injEq, h, ih, List.forall_mem_cons]

@[simp] theorem Frequency.normalize_normalize (f : Frequency) :
    f.normalize.normalize = f.normalize := by
  simp [Frequency.normalize]

@[simp] theorem Period.normalize_normalize (p : Period) : p.normalize.normalize = p.normalize := by
  simp [Period.normalize]

/-- What may be absent is left alone if it is when it is there. -/
theorem option_map_map {α : Type} {f : α → α} (h : ∀ x, f (f x) = f x) (o : Option α) :
    (o.map f).map f = o.map f := by
  cases o with
  | none => rfl
  | some x => simp only [Option.map_some, h]

theorem Event.normal_normal_iff (hs : s.InTime) (e : Event) :
    (e.normal s).normal s = e.normal s ↔ e.Settles s := by
  have hoperator := option_map_map (f := fun raw => (FieldType.number.matchOperator raw).code)
    (FieldType.matchOperator_matchOperator .number) e.operator
  have hfrequency := option_map_map Frequency.normalize_normalize e.frequency
  have hperiod := option_map_map Period.normalize_normalize e.period
  have hattributes := map_map_eq_iff (Attribute.normal_normal_iff hs .transactions) e.attributes
  simp only [Event.normal, Event.mk.injEq, Option.map_some, Option.getD_some, Term.parse_code,
    hoperator, hfrequency, hperiod, hattributes, true_and, Event.Settles]

theorem Condition.normal_normal_iff (hs : s.InTime) (c : Condition) :
    (c.normal s).normal s = c.normal s ↔ c.Settles s := by
  match c with
  | .attribute a => simp [Condition.normal, Condition.Settles, a.normal_normal_iff hs]
  | .event e => simp [Condition.normal, Condition.Settles, e.normal_normal_iff hs]

theorem Group.normal_normal_iff (hs : s.InTime) (g : Group) :
    (g.normal s).normal s = g.normal s ↔ g.Settles s := by
  have hconditions := map_map_eq_iff (Condition.normal_normal_iff hs) g.conditions
  simp only [Group.normal, Group.mk.injEq, true_and, hconditions, Group.Settles]

theorem Tree.normal_normal_iff (hs : s.InTime) (t : Tree) :
    (t.normal s).normal s = t.normal s ↔ t.Settles s := by
  have hconditions := map_map_eq_iff (Condition.normal_normal_iff hs) t.conditions
  have hgroups := map_map_eq_iff (Group.normal_normal_iff hs) t.groups
  simp only [Tree.normal, Tree.mk.injEq, and_true, hconditions, hgroups, Tree.Settles]

/-! ## Normalizing twice -/

/-- Normalize a tree, and then what came out, with the cache that was left. -/
def Tree.normalizeTwice (s : Setting) (t : Tree) : StateM Cache (Tree × Tree) := do
  let once ← t.normalize s
  let twice ← once.normalize s
  return (once, twice)

/-- **When normalizing is idempotent.** The store answers every question, there is no deadline, and the
cache holds only answers of the resolver. Then normalizing what came out of normalizing a tree gives the
same tree once more if every condition of the tree settles, and only then. -/
theorem Tree.normalizeTwice_eq_iff {s : Setting} (hs : s.InTime) {cache : Cache}
    (hcache : cache.Faithful s.resolver) (t : Tree) :
    ((t.normalizeTwice s).run cache).1.2 = ((t.normalizeTwice s).run cache).1.1 ↔ t.Settles s := by
  have htwice : Yields s.resolver (t.normalizeTwice s) (t.normal s, (t.normal s).normal s) :=
    (t.yields_normalize hs).bind (((t.normal s).yields_normalize hs).bind (.pure _))
  rw [(htwice cache hcache).1]
  exact Tree.normal_normal_iff hs t

/-- A setting without any mappings. -/
def unmapped : Setting :=
  ⟨.standalone, .none, 2025⟩

theorem unmapped_inTime : unmapped.InTime :=
  ⟨rfl, rfl, rfl⟩

/-- A tree of one condition on a column of the customers. -/
def customersWith (field operator : String) (value value2 : Scalar) : Tree :=
  ⟨[.attribute ⟨some "customers", some field, some operator, value, value2⟩], [], .and⟩

/-- Birth dates have ranges, so an age range of them settles. -/
theorem normalizeTwice_eq_iff_birth_date :
    unmapped.InTime ∧ Cache.standard.Faithful unmapped.resolver ∧
    (customersWith "birth_date" ageBetween (.int 20) (.int 30)).Settles unmapped ∧
    (((customersWith "birth_date" ageBetween (.int 20) (.int 30)).normalizeTwice unmapped).run
        Cache.standard).1.2
      = (((customersWith "birth_date" ageBetween (.int 20) (.int 30)).normalizeTwice unmapped).run
        Cache.standard).1.1 := by
  have hcache : Cache.standard.Faithful unmapped.resolver :=
    .of_entries_eq_nil (Cache.entries_new 8 4096)
  have hsettles : (customersWith "birth_date" ageBetween (.int 20) (.int 30)).Settles unmapped := by
    refine ⟨fun c hc => ?_, fun g hg => by simp [customersWith] at hg⟩
    obtain rfl := List.mem_singleton.1 hc
    exact ⟨fun _ => by decide, fun h => absurd h (by decide)⟩
  exact ⟨unmapped_inTime, hcache, hsettles,
    (Tree.normalizeTwice_eq_iff unmapped_inTime hcache _).2 hsettles⟩

/-- Two trees that come out different the second time: an age range of a column that has no ranges, and a
city whose capitals are two letters. -/
theorem normalizeTwice_email_and_city_ne :
    unmapped.InTime ∧ Cache.standard.entries = [] ∧
    (((customersWith "email" ageBetween (.int 20) (.int 30)).normalizeTwice unmapped).run
        Cache.standard).1.2
      ≠ (((customersWith "email" ageBetween (.int 20) (.int 30)).normalizeTwice unmapped).run
        Cache.standard).1.1 ∧
    (((customersWith "city" "equals" (.text "ß") .null).normalizeTwice unmapped).run
        Cache.standard).1.2
      ≠ (((customersWith "city" "equals" (.text "ß") .null).normalizeTwice unmapped).run
        Cache.standard).1.1 :=
  ⟨unmapped_inTime, Cache.entries_new 8 4096, by decide +kernel, by decide +kernel⟩

end Audience.Criteria
