import Audience.Criteria.Basic

set_option autoImplicit false

/-! # Reading criteria

Criteria come from people and programs that take liberties: the kind of a condition may be left to
be guessed, a count may be a text, an operator may be missing. The strict reader reports the first
thing it cannot make sense of. The lenient reader leaves such things out, and reads the empty tree
where there is nothing to be read. -/

namespace Audience.Criteria

/-! ## Drafts -/

/-- A condition before its kind is known: every field it might have. -/
structure Draft where
  kind : Option String
  dataset : Option String
  field : Option String
  operator : Option Json
  value : Json
  value2 : Json
  eventName : Option String
  eventType : Option String
  frequency : Option Json
  period : Option Json
  attributes : Option (List Json)

/-- A draft in which nothing is given. -/
def Draft.empty : Draft :=
  ⟨none, none, none, none, .null, .null, none, none, none, none, none⟩

/-- The items of an array, each of which may be anything. -/
def decodeAnyItems (room : Nat) : Json.Reading → Json.Decoded (List Json) :=
  Json.decodeList (Json.decodeAny (room - 1))

/-- Take one field into a draft. -/
def Draft.add (room : Nat) (d : Draft) (name : String) (r : Json.Reading) : Json.Decoded Draft :=
  match name with
  | "type" => do return { d with kind := ← Json.decodeOption Json.decodeString r }
  | "dataset" => do return { d with dataset := ← Json.decodeOption Json.decodeString r }
  | "field" => do return { d with field := ← Json.decodeOption Json.decodeString r }
  | "operator" => do return { d with operator := ← Json.decodeOption (Json.decodeAny room) r }
  | "value" => do return { d with value := ← Json.decodeAny room r }
  | "value2" => do return { d with value2 := ← Json.decodeAny room r }
  | "event_name" => do return { d with eventName := ← Json.decodeOption Json.decodeString r }
  | "event_condition_type" => do
    return { d with eventType := ← Json.decodeOption Json.decodeString r }
  | "frequency" => do return { d with frequency := ← Json.decodeOption (Json.decodeAny room) r }
  | "time_period" => do return { d with period := ← Json.decodeOption (Json.decodeAny room) r }
  | "attribute_conditions" => do
    return { d with attributes := ← Json.decodeOption (decodeAnyItems room) r }
  | _ => .ok d

/-- The fields of a draft; `room` is left for containers within them. -/
def Draft.record (room : Nat) : Json.Record Draft where
  name := "RawCondition"
  fields := [
    ⟨"type", [], false⟩, ⟨"dataset", [], false⟩, ⟨"field", [], false⟩, ⟨"operator", [], false⟩,
    ⟨"value", [], true⟩, ⟨"value2", [], true⟩, ⟨"event_name", [], false⟩,
    ⟨"event_condition_type", [], false⟩, ⟨"frequency", [], false⟩, ⟨"time_period", [], false⟩,
    ⟨"attribute_conditions", ["attributeConditions"], false⟩]
  start := .empty
  add := Draft.add room

/-- The draft that a value holds, if it has the shape of one. -/
def Draft.ofJson? (value : Json) : Option Draft :=
  ((Draft.record value.depth).decodeRead (.ofJson value)).toOption

/-! ## From drafts to conditions -/

/-- Why a draft is no condition. -/
inductive Unrecognized where
  | unknownType (kind : String)
  | neither

/-- The words for it. -/
def Unrecognized.message : Unrecognized → String
  | .unknownType kind => s!"unrecognized condition: unknown condition type '{kind}'"
  | .neither => "unrecognized condition: condition has neither a field nor an event_name"

/-- The integer that a value gives as a count. -/
def countOf (value : Json) : Option Int64 :=
  (Scalar.ofJson value).int64?

/-- The text of a member, or the empty text. -/
def textMember (key : String) (value : Json) : String :=
  ((value.member? key).bind Json.string?).getD ""

/-- The count in a member, or one. -/
def countMember (key : String) (value : Json) : Int64 :=
  ((value.member? key).bind countOf).getD 1

/-- A frequency is a count alone, which means at least as many, or an object with a qualifier and a
count. -/
def Frequency.ofJson (value : Json) : Frequency :=
  match countOf value with
  | some n => ⟨"at_least", n⟩
  | none => ⟨textMember "operator" value, countMember "value" value⟩

/-- A period is an object with a unit and a length. -/
def Period.ofJson (value : Json) : Period :=
  ⟨textMember "unit" value, countMember "value" value⟩

/-- A draft as a condition on a column. -/
def Draft.toAttribute (d : Draft) : Attribute where
  dataset := d.dataset
  field := d.field
  operator := d.operator.bind Json.string?
  value := .ofJson d.value
  value2 := .ofJson d.value2

/-- A draft as a condition on events. What does not have the shape of a condition is left out of the
conditions on their columns. -/
def Draft.toEvent (d : Draft) : Event where
  name := d.eventName.getD "purchase"
  type := d.eventType
  operator := d.operator.bind Json.string?
  value := .ofJson d.value
  frequency := d.frequency.map Frequency.ofJson
  period := d.period.map Period.ofJson
  attributes := (d.attributes.getD []).filterMap fun v => (Draft.ofJson? v).map Draft.toAttribute

/-- The condition that a draft stands for. Without a type, an event name makes it an event and a
field makes it a condition on a column. -/
def Draft.classify (d : Draft) : Except Unrecognized Condition :=
  match d.kind.map fun k => Text.asciiLowered (Text.trimmed k) with
  | some kind =>
    if kind = "event" then .ok (.event d.toEvent)
    else if kind = "attribute" then .ok (.attribute d.toAttribute)
    else .error (.unknownType kind)
  | none =>
    if d.eventName.isSome then .ok (.event d.toEvent)
    else if d.field.isSome then .ok (.attribute d.toAttribute)
    else .error .neither

/-! ## Strict reading -/

/-- A condition; `room` is left for containers within its fields. -/
def Condition.decode (room : Nat) (r : Json.Reading) : Json.Decoded Condition := do
  let draft ← (Draft.record room).decode r
  match draft.classify with
  | .ok c => return c
  | .error e => Json.mismatch (.refused e.message)

/-- The fields of a group. Its conditions stand within five containers. -/
def Group.record : Json.Record Group where
  name := "ConditionGroup"
  fields := [.plain "operator", .plain "conditions"]
  start := ⟨.and, []⟩
  add g name r :=
    match name with
    | "operator" => do return { g with logic := ← Logic.decode r }
    | _ => do
      return { g with conditions := ← Json.decodeList (Condition.decode (Json.maxDepth - 5)) r }

/-- The fields of a tree. Its conditions stand within three containers. -/
def Tree.record : Json.Record Tree where
  name := "CriteriaTree"
  fields := [.plain "conditions", ⟨"condition_groups", ["conditionGroups"], true⟩,
    ⟨"logic_operator", ["rootOperator"], true⟩]
  start := .empty
  add t name r :=
    match name with
    | "conditions" => do
      return { t with conditions := ← Json.decodeList (Condition.decode (Json.maxDepth - 3)) r }
    | "condition_groups" => do
      return { t with groups := ← Json.decodeList Group.record.decode r }
    | _ => do return { t with logic := ← Logic.decode r }

/-- Read criteria; anything that makes no sense is an error. -/
def Tree.parse (text : String) : Json.Decoded Tree :=
  Json.decodeText Tree.record.decode text

/-! ## Lenient reading -/

/-- The logic operator that a value names; AND if it names none. -/
def logicOf (value : Option Json) : Logic :=
  ((value.bind Json.string?).map Logic.parse).getD .and

/-- The condition that a value stands for, if it does. -/
def Condition.ofJson? (value : Json) : Option Condition :=
  (Draft.ofJson? value).bind fun d => d.classify.toOption

/-- The conditions among the items of a value. -/
def conditionsOf (value : Option Json) : List Condition :=
  ((value.bind Json.items?).getD []).filterMap Condition.ofJson?

/-- The group that an object stands for. -/
def Group.ofJson? (value : Json) : Option Group :=
  if value.isObject then
    some ⟨logicOf (value.member? "operator"), conditionsOf (value.member? "conditions")⟩
  else none

/-- The criteria that a value holds; what makes no sense in it is left out. -/
def Tree.ofJson (value : Json) : Tree where
  conditions := conditionsOf (value.member? "conditions")
  groups :=
    let groups := (value.member? "condition_groups").or (value.member? "conditionGroups")
    ((groups.bind Json.items?).getD []).filterMap Group.ofJson?
  logic := logicOf ((value.member? "logic_operator").or (value.member? "rootOperator"))

/-- The criteria that a text holds; none if it is no JSON. -/
def Tree.ofText (text : String) : Tree :=
  match Json.parse text with
  | .ok value => .ofJson value
  | .error _ => .empty

end Audience.Criteria
