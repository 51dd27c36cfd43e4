import Audience.Vocabulary.Term

set_option autoImplicit false

/-! # Stored segments

The form in which a segment is kept: every condition spelled out with texts for its values, numbered
within its list, and a size that counts them all. -/

namespace Audience.Stored

/-- A stored condition on one column. -/
structure Attribute where
  id : UInt32
  dataset : String
  column : String
  operator : String
  value : String
  value2 : String
  logic : Logic
  chosen : Bool
  selected : Bool
  deriving DecidableEq

/-- A stored condition on events. The recency window may be absent in whole or in part. -/
structure Event where
  id : UInt32
  name : String
  type : String
  qualifier : String
  count : Int64
  unit : Option String
  length : Option Int64
  attributes : List Attribute
  logic : Logic
  deriving DecidableEq

/-- A stored condition of either kind. -/
inductive Condition where
  | attribute (a : Attribute)
  | event (e : Event)
  deriving DecidableEq

/-- The number of a condition within its list. -/
def Condition.id : Condition → UInt32
  | .attribute a => a.id
  | .event e => e.id

/-- A stored group of conditions. -/
structure Group where
  id : UInt32
  logic : Logic
  conditions : List Condition
  deriving DecidableEq

/-- A stored segment. -/
structure Tree where
  size : UInt64
  logic : Logic
  conditions : List Condition
  groups : List Group
  deriving DecidableEq

/-- The segment without conditions. -/
def Tree.empty : Tree :=
  ⟨0, .and, [], []⟩

/-- How many conditions there are at the root and in the groups. -/
def Tree.count (t : Tree) : Nat :=
  t.conditions.length + (t.groups.flatMap (·.conditions)).length

/-- The segment with the size that its conditions have. -/
def Tree.sized (t : Tree) : Tree :=
  { t with size := .ofNat t.count }

/-- Whether there is no condition at all. -/
def Tree.isEmpty (t : Tree) : Bool :=
  t.count == 0

end Audience.Stored
