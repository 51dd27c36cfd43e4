import Audience.Json.Printer
import Audience.Stored.Basic

set_option autoImplicit false

/-! # Writing stored segments

A stored segment as JSON, with every member always present and a condition marked with its kind. -/

namespace Audience.Stored

/-- A number without a sign as JSON. -/
def natJson (n : Nat) : Json :=
  .ofInt n

/-- The members of a condition on a column. -/
def Attribute.members (a : Attribute) : List (String × Json) := [
  ("id", natJson a.id.toNat),
  ("datasetKey", .string a.dataset),
  ("columnKey", .string a.column),
  ("operator", .string a.operator),
  ("value", .string a.value),
  ("value2", .string a.value2),
  ("logicOperator", .string a.logic.name),
  ("chosen", .bool a.chosen),
  ("selected", .bool a.selected)]

/-- An optional text as JSON. -/
def optionalText : Option String → Json
  | some s => .string s
  | none => .null

/-- An optional integer as JSON. -/
def optionalInt : Option Int64 → Json
  | some n => .ofInt n.toInt
  | none => .null

/-- The members of a condition on events. -/
def Event.members (e : Event) : List (String × Json) := [
  ("id", natJson e.id.toNat),
  ("columnKey", .string e.name),
  ("eventType", .string e.type),
  ("frequency", .string e.qualifier),
  ("count", .ofInt e.count.toInt),
  ("timePeriod", optionalText e.unit),
  ("timeValue", optionalInt e.length),
  ("attributeConditions", .array (e.attributes.map fun a => .object a.members)),
  ("logicOperator", .string e.logic.name)]

/-- A condition as JSON, marked with its kind. -/
def Condition.toJson : Condition → Json
  | .attribute a => .object (("type", .string "attribute") :: a.members)
  | .event e => .object (("type", .string "event") :: e.members)

/-- A group as JSON. -/
def Group.toJson (g : Group) : Json :=
  .object [("id", natJson g.id.toNat), ("operator", .string g.logic.name),
    ("conditions", .array (g.conditions.map (·.toJson)))]

/-- A segment as JSON. -/
def Tree.toJson (t : Tree) : Json :=
  .object [("size", natJson t.size.toNat), ("rootOperator", .string t.logic.name),
    ("conditions", .array (t.conditions.map (·.toJson))),
    ("conditionGroups", .array (t.groups.map (·.toJson)))]

/-- The text under which a segment is kept. -/
def Tree.text (t : Tree) : String :=
  t.toJson.compact

end Audience.Stored
