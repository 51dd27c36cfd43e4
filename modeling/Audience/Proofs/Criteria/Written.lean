import Audience.Criteria.Writer
import Audience.Proofs.Criteria.Draft
import Audience.Proofs.Json.Scalar

set_option autoImplicit false

/-! # Drafts of what was written

A condition is written piece by piece, and a piece that is absent is left out. Taken back piece by piece
(`Draft.Takes.append`), where an absent piece changes nothing, it makes a draft that holds what the condition
holds (`Condition.decode_draft`). -/

namespace Audience

namespace Scalar

theorem depth_toJson (x : Scalar) : x.toJson.depth = 0 := by
  cases x with
  | float x =>
      rw [toJson]
      split <;> rfl
  | null | bool | int | text => rfl

theorem sorted_toJson (x : Scalar) : x.toJson.sorted = x.toJson := by
  cases x with
  | float x =>
      rw [toJson]
      split <;> rfl
  | null | bool | int | text => rfl

end Scalar

namespace Criteria

open Json

/-! ## Pieces -/

theorem decodeAny_scalar {room : Nat} (x : Scalar) : decodeAny room (.ofJson x.toJson) = .ok x.toJson := by
  rw [decodeAny_ofJson (Scalar.depth_toJson x ▸ Nat.zero_le room), Scalar.sorted_toJson]

/-- Members are taken into a draft; the fields that they are for are among the given names. -/
structure Draft.Takes (room : Nat) (names : List String) (members : List (String × Json))
    (d d' : Draft) : Prop where
  names : (((Draft.record room).given members).map Prod.fst).Sublist names
  fill : (Draft.record room).fill d
    (((Draft.record room).given members).map fun m => (m.1, .ofJson m.2)) = .ok d'

section

variable {room : Nat} {names names' : List String} {members members' : List (String × Json)}
  {d e d' : Draft} {name : String}

theorem Draft.Takes.append (h : Draft.Takes room names members d e)
    (h' : Draft.Takes room names' members' e d') :
    Draft.Takes room (names ++ names') (members ++ members') d d' where
  names := by
    rw [Record.given, List.filterMap_append, List.map_append]
    exact h.names.append h'.names
  fill := by
    rw [Record.given, List.filterMap_append, List.map_append]
    exact Record.fill_append_eq_ok h.fill h'.fill

theorem Draft.takes_nil (names : List String) (d : Draft) : Draft.Takes room names [] d d where
  names := List.nil_sublist names
  fill := rfl

theorem Draft.takes_member (key : String) {v : Json} {entry : Entry}
    (hname : (Draft.record room).fieldOf key = some name)
    (hread : Entry.decode room name (.ofJson v) = .ok entry) (d : Draft) :
    Draft.Takes room [name] [(key, v)] d (d.enter entry) where
  names := by
    rw [Record.given_cons_of_some hname]
    exact List.Sublist.refl _
  fill := by
    rw [Record.given_cons_of_some hname]
    refine Record.fill_cons_eq_ok_iff.mpr ⟨d.enter entry, ?_, rfl⟩
    show Draft.add room d name (.ofJson v) = _
    rw [Draft.add_eq_map, hread]
    rfl

/-- A text that is absent leaves a draft as it is. -/
theorem Draft.takes_optional (name : String) (entry : Option String → Entry)
    (hname : (Draft.record room).fieldOf name = some name)
    (hread : ∀ s, Entry.decode room name (.ofJson (.string s)) = .ok (entry (some s)))
    (hnone : d.enter (entry none) = d) (s : Option String) :
    Draft.Takes room [name] (optional name s) d (d.enter (entry s)) := by
  cases s with
  | none =>
      rw [hnone]
      exact Draft.takes_nil _ d
  | some s => exact Draft.takes_member name hname (hread s) d

theorem Draft.takes_scalar (name : String) (entry : Json → Entry)
    (hname : (Draft.record room).fieldOf name = some name)
    (hread : ∀ r, Entry.decode room name r = (decodeAny room r).map entry) (x : Scalar)
    (d : Draft) : Draft.Takes room [name] [(name, x.toJson)] d (d.enter (entry x.toJson)) := by
  refine Draft.takes_member name hname ?_ d
  rw [hread, decodeAny_scalar]
  rfl

theorem Draft.takes_unlessNull (name : String) (entry : Json → Entry)
    (hname : (Draft.record room).fieldOf name = some name)
    (hread : ∀ r, Entry.decode room name r = (decodeAny room r).map entry)
    (hnull : d.enter (entry .null) = d) (x : Scalar) :
    Draft.Takes room [name] (unlessNull name x) d (d.enter (entry x.toJson)) := by
  by_cases hx : x.isNull = true
  · have hjson : x.toJson = .null := by
      cases x <;> first | rfl | cases hx
    rw [unlessNull, if_pos hx, hjson, hnull]
    exact Draft.takes_nil _ d
  · rw [unlessNull, if_neg hx]
    exact Draft.takes_scalar name entry hname hread x d

end

/-! ## Conditions -/

/-- The draft of a column condition. -/
def Draft.ofAttribute (kind : Option String) (a : Attribute) : Draft where
  kind
  dataset := a.dataset
  field := a.field
  operator := a.operator.map .string
  value := a.value.toJson
  value2 := a.value2.toJson
  eventName := none
  eventType := none
  frequency := none
  period := none
  attributes := none

theorem Attribute.takes_members (room : Nat) (kind : Option String) (a : Attribute) :
    Draft.Takes room ["dataset", "field", "operator", "value", "value2"] a.members
      (Draft.empty.enter (.kind kind)) (Draft.ofAttribute kind a) := by
  have hdataset : Draft.Takes room ["dataset"] (optional "dataset" a.dataset)
      (Draft.empty.enter (.kind kind)) _ :=
    Draft.takes_optional "dataset" .dataset rfl (fun _ => rfl) rfl a.dataset
  have hfield := hdataset.append
    (Draft.takes_optional "field" .field rfl (fun _ => rfl) rfl a.field)
  have hoperator := hfield.append (Draft.takes_optional "operator"
    (fun s => .operator (s.map .string)) rfl (fun _ => rfl) rfl a.operator)
  have hvalue : ∀ d, Draft.Takes room ["value"] [("value", a.value.toJson)] d
      (d.enter (.value a.value.toJson)) :=
    Draft.takes_scalar "value" .value rfl (fun _ => rfl) a.value
  refine hoperator.append ((hvalue _).append
    (Draft.takes_unlessNull "value2" .value2 rfl (fun _ => rfl) ?_ a.value2))
  rfl

/-- The draft of an event condition. -/
def Draft.ofEvent (e : Event) : Draft where
  kind := some "event"
  dataset := none
  field := none
  operator := e.operator.map .string
  value := e.value.toJson
  value2 := .null
  eventName := some e.name
  eventType := e.type
  frequency := e.frequency.map (·.toJson.sorted)
  period := e.period.map (·.toJson.sorted)
  attributes :=
    if e.attributes.isEmpty then none
    else some (e.attributes.map fun a => (Json.object a.members).sorted)

section

variable {room : Nat} {d : Draft} {name : String}

/-- An object that is absent leaves a draft as it is. -/
theorem Draft.takes_object {α : Type} (name : String) (entry : Option Json → Entry)
    (hname : (Draft.record room).fieldOf name = some name)
    (hread : ∀ r, Entry.decode room name r = (decodeOption (decodeAny room) r).map entry)
    (hnone : d.enter (entry none) = d) (toJson : α → Json)
    (hobject : ∀ a, (toJson a).isObject = true) (x : Option α)
    (hdepth : ∀ m ∈ (x.map fun a => (name, toJson a)).toList, m.2.depth ≤ room) :
    Draft.Takes room [name] (x.map fun a => (name, toJson a)).toList d
      (d.enter (entry (x.map fun a => (toJson a).sorted))) := by
  cases x with
  | none =>
      rw [Option.map_none, Option.map_none, hnone]
      exact Draft.takes_nil _ d
  | some a =>
      refine Draft.takes_member name hname ?_ d
      have hroom : (toJson a).depth ≤ room := hdepth (name, toJson a) List.mem_cons_self
      have hreading : Reading.ofJson (toJson a) ≠ .null := by
        have hisObject := hobject a
        cases htoJson : toJson a <;> simp_all [Reading.ofJson, isObject, members?]
      rw [hread, decodeOption_of_ne_null hreading, decodeAny_ofJson hroom]
      rfl

theorem Draft.takes_attributes (hnone : d.enter (.attributes none) = d) (as : List Attribute)
    (hdepth : ∀ m ∈ (if as.isEmpty then []
      else [("attributeConditions", .array (as.map fun a => .object a.members))]),
        Json.depth m.2 ≤ room) :
    Draft.Takes room ["attribute_conditions"]
      (if as.isEmpty then []
        else [("attributeConditions", .array (as.map fun a => .object a.members))]) d
      (d.enter (.attributes (if as.isEmpty then none
        else some (as.map fun a => (Json.object a.members).sorted)))) := by
  by_cases has : as.isEmpty = true
  · rw [if_pos has, if_pos has, hnone]
    exact Draft.takes_nil _ d
  · rw [if_neg has, if_neg has]
    refine Draft.takes_member "attributeConditions" rfl ?_ d
    have hitems : decodeAnyItems room (.ofJson (.array (as.map fun a => .object a.members)))
        = .ok (as.map fun a => (Json.object a.members).sorted) := by
      rw [if_neg has] at hdepth
      have hlist := hdepth _ List.mem_cons_self
      rw [depth] at hlist
      have hitem := depthOfItems_le_iff.mp (Nat.le_sub_one_of_lt hlist)
      exact decodeList_map fun a ha => decodeAny_ofJson (hitem _ (List.mem_map_of_mem ha))
    show (decodeOption (decodeAnyItems room) _).map Entry.attributes = _
    rw [decodeOption_of_ne_null (by simp [Reading.ofJson]), hitems]
    rfl

end

theorem Event.takes_members {room : Nat} (e : Event) (hroom : depthOfMembers e.members ≤ room) :
    Draft.Takes room ["event_name", "event_condition_type", "operator", "value", "frequency",
      "time_period", "attribute_conditions"] e.members
      (Draft.empty.enter (.kind (some "event"))) (Draft.ofEvent e) := by
  have hdepths := depthOfMembers_le_iff.mp hroom
  have hname : Draft.Takes room ["event_name"] [("event_name", .string e.name)]
      (Draft.empty.enter (.kind (some "event"))) _ :=
    Draft.takes_member "event_name" rfl rfl _
  have htype := hname.append
    (Draft.takes_optional "event_condition_type" .eventType rfl (fun _ => rfl) rfl e.type)
  have hoperator := htype.append (Draft.takes_optional "operator"
    (fun s => .operator (s.map .string)) rfl (fun _ => rfl) rfl e.operator)
  have hvalue := hoperator.append
    (Draft.takes_unlessNull "value" .value rfl (fun _ => rfl) rfl e.value)
  have hfrequency := hvalue.append (Draft.takes_object "frequency" .frequency rfl (fun _ => rfl) rfl
    Frequency.toJson (fun _ => rfl) e.frequency fun m hm =>
      hdepths m (List.mem_append_left _ (List.mem_append_left _ (List.mem_append_right _ hm))))
  have hperiod := hfrequency.append (Draft.takes_object "time_period" .period rfl (fun _ => rfl) rfl
    Period.toJson (fun _ => rfl) e.period fun m hm =>
      hdepths m (List.mem_append_left _ (List.mem_append_right _ hm)))
  exact hperiod.append (Draft.takes_attributes rfl e.attributes fun m hm =>
    hdepths m (List.mem_append_right _ hm))

/-- The draft of a condition. -/
def Draft.ofCondition : Condition → Draft
  | .attribute a => .ofAttribute (some "attribute") a
  | .event e => .ofEvent e

theorem Draft.Takes.decodeWith {room : Nat} {names : List String} {members : List (String × Json)}
    {d : Draft} (h : Draft.Takes room names members .empty d) (hnames : names.Nodup)
    (leftOver : Nat → DecodeError) :
    (Draft.record room).decodeWith leftOver (.ofJson (.object members)) = .ok d := by
  rw [Reading.ofJson, membersOfJson_eq_keyed]
  refine Record.decodeWith_keyed_eq_ok_iff.mpr ?_
  rw [given_map]
  refine ⟨?_, h.fill⟩
  rw [List.map_map]
  exact h.names.nodup hnames

theorem Condition.decode_draft {room : Nat} (c : Condition) (hroom : c.toJson.depth ≤ room + 1)
    (leftOver : Nat → DecodeError) :
    (Draft.record room).decodeWith leftOver (.ofJson c.toJson) = .ok (.ofCondition c) := by
  cases c with
  | «attribute» a =>
      have hkind : Draft.Takes room ["type"] [("type", .string "attribute")] .empty _ :=
        Draft.takes_member "type" rfl rfl _
      exact (hkind.append (a.takes_members room (some "attribute"))).decodeWith (by decide) leftOver
  | event e =>
      have hmembers : depthOfMembers e.members ≤ room :=
        (Nat.max_le.mp (Nat.le_of_succ_le_succ hroom)).2
      have hkind : Draft.Takes room ["type"] [("type", .string "event")] .empty _ :=
        Draft.takes_member "type" rfl rfl _
      exact (hkind.append (e.takes_members hmembers)).decodeWith (by decide) leftOver

end Criteria

end Audience
