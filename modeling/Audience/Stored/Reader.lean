import Audience.Json.Decode
import Audience.Stored.Basic

set_option autoImplicit false

/-! # Reading stored segments

Every member may be absent but the kind of a condition, which may stand anywhere among its members.
So a condition is read as a whole before its members are looked at. The stored size is read but not
trusted. -/

namespace Audience.Stored

/-- The fields of a condition on a column. -/
def Attribute.record : Json.Record Attribute where
  name := "StoredAttribute"
  fields := [.plain "id", .plain "datasetKey", .plain "columnKey", .plain "operator",
    .plain "value", .plain "value2", .plain "logicOperator", .plain "chosen", .plain "selected"]
  start := ⟨0, "", "", "", "", "", .and, false, false⟩
  add a name r :=
    match name with
    | "id" => do return { a with id := ← Json.decodeUInt32 r }
    | "datasetKey" => do return { a with dataset := ← Json.decodeString r }
    | "columnKey" => do return { a with column := ← Json.decodeString r }
    | "operator" => do return { a with operator := ← Json.decodeString r }
    | "value" => do return { a with value := ← Json.decodeString r }
    | "value2" => do return { a with value2 := ← Json.decodeString r }
    | "logicOperator" => do return { a with logic := ← Logic.decode r }
    | "chosen" => do return { a with chosen := ← Json.decodeBool r }
    | _ => do return { a with selected := ← Json.decodeBool r }

/-- The fields of a condition on events. -/
def Event.record : Json.Record Event where
  name := "StoredEvent"
  fields := [.plain "id", .plain "columnKey", .plain "eventType", .plain "frequency",
    .plain "count", .plain "timePeriod", .plain "timeValue", .plain "attributeConditions",
    .plain "logicOperator"]
  start := ⟨0, "", "", "", 0, none, none, [], .and⟩
  add e name r :=
    match name with
    | "id" => do return { e with id := ← Json.decodeUInt32 r }
    | "columnKey" => do return { e with name := ← Json.decodeString r }
    | "eventType" => do return { e with type := ← Json.decodeString r }
    | "frequency" => do return { e with qualifier := ← Json.decodeString r }
    | "count" => do return { e with count := ← Json.decodeInt64 r }
    | "timePeriod" => do return { e with unit := ← Json.decodeOption Json.decodeString r }
    | "timeValue" => do return { e with length := ← Json.decodeOption Json.decodeInt64 r }
    | "attributeConditions" => do
      return { e with attributes := ← Json.decodeList Attribute.record.decodeRead r }
    | _ => do return { e with logic := ← Logic.decode r }

/-- The kinds of stored conditions. -/
inductive Kind where
  | attribute
  | event

/-- The kind that a value names. -/
def Kind.decode : Json.Reading → Json.Decoded Kind
  | .string s =>
    if s = "attribute" then .ok .attribute
    else if s = "event" then .ok .event
    else Json.mismatch (.unknownVariant s ["attribute", "event"])
  | r => Json.unexpected "variant identifier" r

/-- Read a value to its end, so that it shows its faults now. -/
def readThrough (room : Nat) (r : Json.Reading) : Json.Decoded Json.Reading := do
  let _ ← Json.decodeAny room r
  return r

/-- Sort out the members of a condition: its kind, and all others read through. -/
def sortOut (room : Nat) (kind : Option Kind) :
    List (Except Json.Fault String × Json.Reading) →
      Json.Decoded (Option Kind × List (Except Json.Fault String × Json.Reading))
  | [] => .ok (kind, [])
  | (key, r) :: rest => do
    let key ← Json.ofFault key
    if key = "type" then
      if kind.isSome then Json.mismatch (.duplicateField "type")
      else do
        let found ← Kind.decode r
        sortOut room (some found) rest
    else do
      let r ← readThrough room r
      let (kind, others) ← sortOut room kind rest
      return (kind, (.ok key, r) :: others)

/-- The kind of a condition and the rest of it. In an array the kind comes first. -/
def splitKind (room : Nat) : Json.Reading → Json.Decoded (Kind × Json.Reading)
  | .object members ending => do
    let (kind, others) ← sortOut room none members
    Json.atEnd ending
    match kind with
    | some kind => return (kind, .object others none)
    | none => Json.mismatch (.missingField "type")
  | .array [] ending => do
    Json.atEnd ending
    Json.mismatch (.missingField "type")
  | .array (first :: rest) ending => do
    let kind ← Kind.decode first
    let others ← Json.decodeItems (readThrough room) rest
    Json.atEnd ending
    return (kind, .array others none)
  | r => Json.unexpected "internally tagged enum StoredCondition" r

/-- A condition of either kind; `room` is left for containers within it. -/
def Condition.decode (room : Nat) (r : Json.Reading) : Json.Decoded Condition := do
  let (kind, rest) ← splitKind room r
  match kind with
  | .attribute => return .attribute (← Attribute.record.decodeRead rest)
  | .event => return .event (← Event.record.decodeRead rest)

/-- The fields of a group. Its conditions stand within five containers. -/
def Group.record : Json.Record Group where
  name := "StoredGroup"
  fields := [.plain "id", .plain "operator", .plain "conditions"]
  start := ⟨0, .and, []⟩
  add g name r :=
    match name with
    | "id" => do return { g with id := ← Json.decodeUInt32 r }
    | "operator" => do return { g with logic := ← Logic.decode r }
    | _ => do
      return { g with conditions := ← Json.decodeList (Condition.decode (Json.maxDepth - 5)) r }

/-- The fields of a segment. Its conditions stand within three containers. -/
def Tree.record : Json.Record Tree where
  name := "StorageTree"
  fields := [.plain "size", .plain "rootOperator", .plain "conditions", .plain "conditionGroups"]
  start := .empty
  add t name r :=
    match name with
    | "size" => do return { t with size := ← Json.decodeSize r }
    | "rootOperator" => do return { t with logic := ← Logic.decode r }
    | "conditions" => do
      return { t with conditions := ← Json.decodeList (Condition.decode (Json.maxDepth - 3)) r }
    | _ => do return { t with groups := ← Json.decodeList Group.record.decode r }

/-- Read a stored segment and count its conditions anew. -/
def Tree.parse (text : String) : Json.Decoded Tree := do
  return (← Json.decodeText Tree.record.decode text).sized

end Audience.Stored
