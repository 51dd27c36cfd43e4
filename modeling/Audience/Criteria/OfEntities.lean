import Audience.Criteria.Normalize
import Audience.Sentence.Entity

set_option autoImplicit false

/-! # From entities to criteria

What a sentence mentions becomes conditions at the root of a tree, in the same order. Age ranges
become birth dates, and values of mapped columns are resolved. -/

namespace Audience.Criteria

/-- A window as a period. -/
def Period.ofWindow (w : Window) : Period :=
  ⟨Term.code w.unit, w.length⟩

/-- An event with a measure. -/
def Event.ofMeasure (name : String) : Measure → Event
  | .performed qualifier count window => {
    name
    type := some (Term.code EventType.performed)
    operator := none
    value := .null
    frequency := some ⟨Term.code qualifier, count⟩
    period := some (.ofWindow window)
    attributes := [] }
  | .amount operator value window => {
    name
    type := some (Term.code EventType.performed)
    operator := some operator
    value
    frequency := none
    period := window.map .ofWindow
    attributes := [] }

/-- The value that a text stands for in a column that may have mappings. -/
def Setting.resolveIn (s : Setting) (mapping : Option Category) (value : Scalar) :
    StateM Mapping.Cache Scalar :=
  match mapping, value with
  | some category, .text raw => do
    return .text (← s.resolver.resolve s.deadline.now category.name raw)
  | _, _ => pure value

/-- The condition that a mention of a column makes. -/
def Attribute.ofEntity (s : Setting) (dataset field operator : String) (value value2 : Scalar) :
    StateM Mapping.Cache Attribute :=
  let a : Attribute := ⟨some dataset, some field, some operator, value, value2⟩
  match a.birthDates? s.year with
  | some (first, last) =>
    pure { a with operator := some "between", value := .text first, value2 := .text last }
  | none => do
    return { a with value := ← s.resolveIn (Catalog.mapping dataset field) value }

/-- The condition that an entity makes. -/
def Condition.ofEntity (s : Setting) : Entity → StateM Mapping.Cache Condition
  | .attribute dataset field operator value value2 => do
    return .attribute (← Attribute.ofEntity s dataset field operator value value2)
  | .event name measure => pure (.event (.ofMeasure name measure))

/-- The criteria that entities make. -/
def Tree.ofEntities (s : Setting) (entities : List Entity) : StateM Mapping.Cache Tree := do
  return ⟨← each Condition.ofEntity s entities, [], .and⟩

end Audience.Criteria
