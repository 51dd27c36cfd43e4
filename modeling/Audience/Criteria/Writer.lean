import Audience.Criteria.Basic

set_option autoImplicit false

/-! # Writing criteria

Criteria as JSON. What is absent is left out, except for the value of a column condition, which is
null then. -/

namespace Audience.Criteria

/-- The member of an optional text. -/
def optional (key : String) : Option String → List (String × Json)
  | some s => [(key, .string s)]
  | none => []

/-- The member of a value unless it is null. -/
def unlessNull (key : String) (value : Scalar) : List (String × Json) :=
  if value.isNull then [] else [(key, value.toJson)]

/-- The members of a column condition. -/
def Attribute.members (a : Attribute) : List (String × Json) :=
  optional "dataset" a.dataset ++ optional "field" a.field ++ optional "operator" a.operator
    ++ ("value", a.value.toJson) :: unlessNull "value2" a.value2

/-- A frequency as JSON. -/
def Frequency.toJson (f : Frequency) : Json :=
  .object [("operator", .string f.qualifier), ("value", .ofInt f.count.toInt)]

/-- A period as JSON. -/
def Period.toJson (p : Period) : Json :=
  .object [("unit", .string p.unit), ("value", .ofInt p.length.toInt)]

/-- The members of an event condition. -/
def Event.members (e : Event) : List (String × Json) :=
  ("event_name", .string e.name) :: optional "event_condition_type" e.type
    ++ optional "operator" e.operator ++ unlessNull "value" e.value
    ++ (e.frequency.map fun f => ("frequency", f.toJson)).toList
    ++ (e.period.map fun p => ("time_period", p.toJson)).toList
    ++ if e.attributes.isEmpty then []
      else [("attributeConditions", .array (e.attributes.map fun a => .object a.members))]

/-- A condition as JSON, marked with its kind. -/
def Condition.toJson : Condition → Json
  | .attribute a => .object (("type", .string "attribute") :: a.members)
  | .event e => .object (("type", .string "event") :: e.members)

/-- A group as JSON. -/
def Group.toJson (g : Group) : Json :=
  .object [("operator", .string g.logic.name), ("conditions", .array (g.conditions.map (·.toJson)))]

/-- A tree as JSON. -/
def Tree.toJson (t : Tree) : Json :=
  .object [("conditions", .array (t.conditions.map (·.toJson))),
    ("condition_groups", .array (t.groups.map (·.toJson))),
    ("logic_operator", .string t.logic.name)]

end Audience.Criteria
