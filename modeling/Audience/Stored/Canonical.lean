import Audience.Catalog
import Audience.Criteria.Basic
import Audience.Stored.Basic

set_option autoImplicit false

/-! # From criteria to stored segments

Every condition is stored where it stands, numbered from one within its list: conditions at the
root, groups, the members of each group, and the conditions on the columns of each event. Nothing is
left out, and what was not given is filled in. An event that compares its amount gets a condition on
the amount column, in front of the others. -/

namespace Audience.Stored

/-- The column that amounts of events are stored in. -/
def amountColumn : String := "total_amount"

/-- Number the items of a list from one. -/
def numbered {α β : Type} (f : UInt32 → α → β) (xs : List α) : List β :=
  (xs.zipIdx 1).map fun (x, i) => f (.ofNat i) x

/-- The dataset of a condition: the one given, else the first that has the column, else the
fallback. -/
def datasetOf (given : Option String) (column : String) (fallback : String) : String :=
  given.getD (((Catalog.locate column).map (·.dataset.name)).getD fallback)

/-- Store a condition on a column. -/
def Attribute.ofCriteria (logic : Logic) (fallback : String) (id : UInt32)
    (a : Criteria.Attribute) : Attribute :=
  let column := a.field.getD ""
  let dataset := datasetOf a.dataset column fallback
  { id, dataset, column, logic
    operator := a.operator.getD (Catalog.fieldType dataset column).defaultOperator.code
    value := a.value.display
    value2 := a.value2.display
    chosen := false
    selected := false }

/-- The conditions on columns that an event makes, the one on its amount first. -/
def eventAttributes (e : Criteria.Event) : List Criteria.Attribute :=
  if e.comparesAmount then
    ⟨some Dataset.transactions.name, some amountColumn, e.operator, e.value, .null⟩ :: e.attributes
  else e.attributes

/-- Store a condition on events. -/
def Event.ofCriteria (logic : Logic) (id : UInt32) (e : Criteria.Event) : Event where
  id := id
  name := e.name
  type := e.type.getD (Term.code (Term.fallback : EventType))
  qualifier := (e.frequency.map (·.qualifier)).getD (Term.code (Term.fallback : Qualifier))
  count := (e.frequency.map (·.count)).getD 1
  unit := e.period.map (·.unit)
  length := e.period.map (·.length)
  attributes := numbered (Attribute.ofCriteria .and Dataset.transactions.name) (eventAttributes e)
  logic := logic

/-- Store a condition of either kind. -/
def Condition.ofCriteria (logic : Logic) (id : UInt32) : Criteria.Condition → Condition
  | .attribute a => .attribute (.ofCriteria logic "" id a)
  | .event e => .event (.ofCriteria logic id e)

/-- Store a group. Its members keep the operator of the tree as their own. -/
def Group.ofCriteria (logic : Logic) (id : UInt32) (g : Criteria.Group) : Group where
  id := id
  logic := g.logic
  conditions := numbered (Condition.ofCriteria logic) g.conditions

/-- Store a tree of criteria. -/
def Tree.ofCriteria (t : Criteria.Tree) : Tree :=
  Tree.sized
    { size := 0
      logic := t.logic
      conditions := numbered (Condition.ofCriteria t.logic) t.conditions
      groups := numbered (Group.ofCriteria t.logic) t.groups }

end Audience.Stored
