import Audience.Scalar
import Audience.Vocabulary.Term

set_option autoImplicit false

/-! # Criteria

Who belongs to a segment, as it is put forward by a person or a program: conditions on columns and
on events, at the root of a tree and in groups. Operators, units and other names are texts here and
may be anything; normalizing brings them into the vocabulary. -/

namespace Audience.Criteria

/-- A condition that compares one column with a value, or with two. -/
structure Attribute where
  dataset : Option String
  field : Option String
  operator : Option String
  value : Scalar
  value2 : Scalar
  deriving DecidableEq

/-- How often an event has to have happened. -/
structure Frequency where
  qualifier : String
  count : Int64
  deriving DecidableEq

/-- How far back events count. -/
structure Period where
  unit : String
  length : Int64
  deriving DecidableEq

/-- A condition on events of one name. It may compare the amount of the event directly. -/
structure Event where
  name : String
  type : Option String
  operator : Option String
  value : Scalar
  frequency : Option Frequency
  period : Option Period
  attributes : List Attribute
  deriving DecidableEq

/-- Whether the event compares its amount directly. -/
def Event.comparesAmount (e : Event) : Bool :=
  e.operator.isSome && !e.value.isBlank

/-- A condition of either kind. -/
inductive Condition where
  | attribute (a : Attribute)
  | event (e : Event)
  deriving DecidableEq

/-- Conditions joined by an operator of their own. -/
structure Group where
  logic : Logic
  conditions : List Condition
  deriving DecidableEq

/-- A tree of criteria: conditions and groups, all joined by one operator. -/
structure Tree where
  conditions : List Condition
  groups : List Group
  logic : Logic
  deriving DecidableEq

/-- The tree without conditions. -/
def Tree.empty : Tree :=
  ⟨[], [], .and⟩

/-- How many conditions there are at the root and in the groups. -/
def Tree.count (t : Tree) : Nat :=
  t.conditions.length + (t.groups.flatMap (·.conditions)).length

end Audience.Criteria
