import Audience.Criteria.Reader
import Audience.Proofs.Json.Reread

set_option autoImplicit false

/-! # Drafts

A field that a draft is given makes one entry in it, and entries for different fields may be made in any
order (`Draft.enter_comm`). So a draft that could be read from a text can be read from its value as well,
and is the same (`Draft.ofJson?_of_decode`). -/

namespace Audience.Criteria

open Json

/-! ## Entries -/

/-- What one field gives to a draft; a field of another name gives nothing. -/
inductive Entry where
  | kind (s : Option String)
  | dataset (s : Option String)
  | field (s : Option String)
  | operator (v : Option Json)
  | value (v : Json)
  | value2 (v : Json)
  | eventName (s : Option String)
  | eventType (s : Option String)
  | frequency (v : Option Json)
  | period (v : Option Json)
  | attributes (vs : Option (List Json))
  | other (name : String)

/-- The field that an entry is for. -/
def Entry.name : Entry → String
  | .kind _ => "type"
  | .dataset _ => "dataset"
  | .field _ => "field"
  | .operator _ => "operator"
  | .value _ => "value"
  | .value2 _ => "value2"
  | .eventName _ => "event_name"
  | .eventType _ => "event_condition_type"
  | .frequency _ => "frequency"
  | .period _ => "time_period"
  | .attributes _ => "attribute_conditions"
  | .other name => name

/-- A draft with one more entry. -/
def Draft.enter (d : Draft) : Entry → Draft
  | .kind s => { d with kind := s }
  | .dataset s => { d with dataset := s }
  | .field s => { d with field := s }
  | .operator v => { d with operator := v }
  | .value v => { d with value := v }
  | .value2 v => { d with value2 := v }
  | .eventName s => { d with eventName := s }
  | .eventType s => { d with eventType := s }
  | .frequency v => { d with frequency := v }
  | .period v => { d with period := v }
  | .attributes vs => { d with attributes := vs }
  | .other _ => d

/-- Read the entry of a field. -/
def Entry.decode (room : Nat) (name : String) : Reading → Decoded Entry :=
  match name with
  | "type" => fun r => (decodeOption decodeString r).map .kind
  | "dataset" => fun r => (decodeOption decodeString r).map .dataset
  | "field" => fun r => (decodeOption decodeString r).map .field
  | "operator" => fun r => (decodeOption (decodeAny room) r).map .operator
  | "value" => fun r => (decodeAny room r).map .value
  | "value2" => fun r => (decodeAny room r).map .value2
  | "event_name" => fun r => (decodeOption decodeString r).map .eventName
  | "event_condition_type" => fun r => (decodeOption decodeString r).map .eventType
  | "frequency" => fun r => (decodeOption (decodeAny room) r).map .frequency
  | "time_period" => fun r => (decodeOption (decodeAny room) r).map .period
  | "attribute_conditions" => fun r => (decodeOption (decodeAnyItems room) r).map .attributes
  | name => fun _ => .ok (.other name)

theorem Draft.add_eq_map (room : Nat) (d : Draft) (name : String) (r : Reading) :
    Draft.add room d name r = (Entry.decode room name r).map d.enter := by
  have henter : ∀ {α : Type} (x : Decoded α) (entry : α → Entry),
      (x.map entry).map d.enter = x >>= fun a => pure (d.enter (entry a)) := by
    intro α x entry
    cases x <;> rfl
  unfold Draft.add
  split
  -- A name of no field makes an entry that changes nothing.
  case h_12 =>
    unfold Entry.decode
    split <;> first | rfl | contradiction
  all_goals
    simp only [Entry.decode, henter]
    rfl

theorem Entry.name_of_decode {room : Nat} {name : String} {r : Reading} {e : Entry}
    (h : Entry.decode room name r = .ok e) : e.name = name := by
  unfold Entry.decode at h
  split at h
  case h_12 =>
    cases h
    rfl
  all_goals
    obtain ⟨x, -, rfl⟩ := map_eq_ok_iff.mp h
    rfl

theorem Draft.enter_comm (d : Draft) {e e' : Entry} (h : e.name ≠ e'.name) :
    (d.enter e).enter e' = (d.enter e').enter e := by
  cases e <;> cases e' <;> first | rfl | exact absurd rfl h

theorem Draft.independent (room : Nat) : (Draft.record room).Independent := by
  rintro ⟨m, r⟩ ⟨n, q⟩ hne d d' hfill
  obtain ⟨t, hm, hfill⟩ := Record.fill_cons_eq_ok_iff.mp hfill
  obtain ⟨u, hn, hfill⟩ := Record.fill_cons_eq_ok_iff.mp hfill
  obtain rfl := Except.ok.inj hfill
  -- Whatever the two fields hold, they make entries of different names.
  simp only [Draft.record, Draft.add_eq_map, map_eq_ok_iff] at hm hn
  obtain ⟨e, he, rfl⟩ := hm
  obtain ⟨e', he', rfl⟩ := hn
  have hnames : e.name ≠ e'.name := by
    rw [Entry.name_of_decode he, Entry.name_of_decode he']
    exact hne
  simp only [Record.fill_cons_eq_ok_iff, Draft.record, Draft.add_eq_map, map_eq_ok_iff]
  exact ⟨_, ⟨e', he', rfl⟩, _, ⟨e, he, rfl⟩, by rw [d.enter_comm hnames]; rfl⟩

theorem Entry.carries (room bound : Nat) (name : String) :
    Carries bound (Entry.decode room name) (Entry.decode bound name) := by
  have htext : Carries bound (decodeOption decodeString) (decodeOption decodeString) :=
    carries_string.option
  have hany : Carries bound (decodeAny room) (decodeAny bound) := carries_any
  have hitems : Carries bound (decodeAnyItems room) (decodeAnyItems bound) := carries_any.list
  unfold Entry.decode
  split
  all_goals first
    | exact htext.map _
    | exact hany.map _
    | exact hany.option.map _
    | exact hitems.option.map _
    | exact carries_const _

/-- A draft is made of the value of a text as it is of the text. -/
theorem Draft.ofJson?_of_decode {room n : Nat} {r : Reading} {v : Json} {d : Draft}
    (hv : r.toJson n = .ok v) (hread : (Draft.record room).decode r = .ok d) :
    Draft.ofJson? v = some d := by
  have hcarries : Carries v.depth (Draft.record room).decode (Draft.record v.depth).decodeRead := by
    refine carries_record rfl rfl (Draft.independent v.depth) fun s name => ?_
    have hadd : ∀ room, (Draft.record room).add s name =
        fun r => (Entry.decode room name r).map s.enter :=
      fun room => funext fun r => s.add_eq_map room name r
    rw [hadd, hadd]
    exact (Entry.carries room v.depth name).map _
  rw [Draft.ofJson?, hcarries r n v d hv (Nat.le_refl _) hread]
  rfl

end Audience.Criteria
