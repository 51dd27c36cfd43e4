import Audience.AgeRange
import Audience.Catalog
import Audience.Criteria.Basic
import Audience.Mapping.Resolver

set_option autoImplicit false

/-! # Normal criteria

Normalizing brings criteria into the vocabulary. Operators, event types, qualifiers and units that
are not recognised are replaced by those that stand in for them, values of mapped columns by their
standard values, and age ranges by birth dates. Conditions are taken in order, the root before the
groups, and share one cache. -/

namespace Audience.Criteria

/-- What normalizing goes by: how values are resolved, until when, and the current year. -/
structure Setting where
  resolver : Mapping.Resolver
  deadline : Mapping.Clock
  year : Int

namespace Setting

variable (s : Setting)

/-- The same, but for what is found about the deadline. -/
def during (clock : Mapping.Clock) : Setting :=
  { s with deadline := clock }

/-- What the first part of normalizing goes by. -/
def first : Setting :=
  s.during s.deadline.first

/-- What the rest of normalizing goes by. -/
def rest : Setting :=
  s.during s.deadline.rest

end Setting

/-- Apply a step with a cache to each item in order. -/
def each {α β : Type} (f : Setting → α → StateM Mapping.Cache β) (s : Setting) :
    List α → StateM Mapping.Cache (List β)
  | [] => pure []
  | x :: xs => do
    let y ← f s.first x
    let ys ← each f s.rest xs
    return y :: ys

/-- The dataset of a condition: the one given, else the first that has the column, else the
fallback. -/
def Attribute.datasetOr (fallback : Dataset) (a : Attribute) : String :=
  a.dataset.getD (((Catalog.locate (a.field.getD "")).map (·.dataset)).getD fallback).name

/-- The birth dates that an age range asks for, if a condition is one. -/
def Attribute.birthDates? (year : Int) (a : Attribute) : Option (String × String) :=
  if a.operator = some ageBetween then do
    let youngest ← a.value.int64?
    let oldest ← a.value2.int64?
    Audience.birthDates? year youngest oldest
  else none

/-- The standard value of a text in a category; what is no text, or blank, stays as it is. -/
def Setting.standardize (s : Setting) (category : Category) (value : Scalar) :
    StateM Mapping.Cache Scalar :=
  match value with
  | .text raw =>
    if Text.isAllBlank raw then pure value
    else do return .text (← s.resolver.standardize s.deadline.now category.name raw)
  | _ => pure value

/-- The standard value of a value in a column that may have mappings. -/
def Setting.standardizeIn (s : Setting) (mapping : Option Category) (value : Scalar) :
    StateM Mapping.Cache Scalar :=
  match mapping with
  | some category => s.standardize category value
  | none => pure value

/-- A condition on a column, brought into the vocabulary. -/
def Attribute.normalize (s : Setting) (fallback : Dataset) (a : Attribute) :
    StateM Mapping.Cache Attribute :=
  let dataset := a.datasetOr fallback
  let column := a.field.getD ""
  match a.birthDates? s.year with
  | some (first, last) =>
    pure ⟨some dataset, a.field, some "between", .text first, .text last⟩
  | none => do
    let operator := ((Catalog.fieldType dataset column).matchOperator (a.operator.getD "")).code
    let mapping := Catalog.mapping dataset column
    let value ← s.first.standardizeIn mapping a.value
    let value2 ← s.rest.standardizeIn mapping a.value2
    return ⟨some dataset, a.field, some operator, value, value2⟩

/-- A frequency with a known qualifier and a count that is not negative. -/
def Frequency.normalize (f : Frequency) : Frequency :=
  ⟨Term.code (Term.parse f.qualifier : Qualifier), max f.count 0⟩

/-- The unit that a text names, in the plural or the singular. -/
def unitOf? (raw : String) : Option TimeUnit :=
  (Term.parse? raw).or (Term.parse? (Text.trimmed raw ++ "s"))

/-- A period with a known unit and a length that is not negative. -/
def Period.normalize (p : Period) : Period :=
  ⟨Term.code ((unitOf? p.unit).getD Term.fallback), max p.length 0⟩

/-- A condition on events, brought into the vocabulary. -/
def Event.normalize (s : Setting) (e : Event) : StateM Mapping.Cache Event := do
  let attributes ← each (Attribute.normalize · .transactions) s e.attributes
  return {
    name := e.name
    type := some (Term.code ((e.type.map Term.parse).getD Term.fallback : EventType))
    operator := e.operator.map fun raw => (FieldType.number.matchOperator raw).code
    value := e.value
    frequency := e.frequency.map Frequency.normalize
    period := e.period.map Period.normalize
    attributes }

/-- A condition, brought into the vocabulary. -/
def Condition.normalize (s : Setting) : Condition → StateM Mapping.Cache Condition
  | .attribute a => do return .attribute (← a.normalize s .customers)
  | .event e => do return .event (← e.normalize s)

/-- A group, brought into the vocabulary. -/
def Group.normalize (s : Setting) (g : Group) : StateM Mapping.Cache Group := do
  return ⟨g.logic, ← each Condition.normalize s g.conditions⟩

/-- A tree of criteria, brought into the vocabulary. -/
def Tree.normalize (s : Setting) (t : Tree) : StateM Mapping.Cache Tree := do
  let conditions ← each Condition.normalize s.first t.conditions
  let groups ← each Group.normalize s.rest t.groups
  return ⟨conditions, groups, t.logic⟩

end Audience.Criteria
