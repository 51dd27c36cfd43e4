import Audience.Proofs.Json.Record

set_option autoImplicit false

/-! # Reading what was read before

A text can be decoded as it is read, or read to its value first and decoded from that. Members have
another order then and may be fewer, but what the first way makes of a text, the second makes of it too:
for scalars, for lists (`Carries.list`), and for records whose fields are independent
(`carries_record`). -/

namespace Audience.Json

/-! ## Scalars and lists -/

/-- What one decoder makes of a reading, another one makes of its value too, if the value is no deeper
than a bound. -/
def Carries {α : Type} (bound : Nat) (decode decode' : Reading → Decoded α) : Prop :=
  ∀ (r : Reading) (room : Nat) (v : Json) (a : α), r.toJson room = .ok v → v.depth ≤ bound →
    decode r = .ok a → decode' (.ofJson v) = .ok a

section

variable {α β : Type} {bound : Nat} {decode decode' : Reading → Decoded α}

theorem Carries.map (h : Carries bound decode decode') (f : α → β) :
    Carries bound (fun r => (decode r).map f) (fun r => (decode' r).map f) := by
  intro r room v b hv hdepth hb
  obtain ⟨a, ha, rfl⟩ := map_eq_ok_iff.mp hb
  exact map_eq_ok_iff.mpr ⟨a, h r room v a hv hdepth ha, rfl⟩

theorem carries_const (d : Decoded α) : Carries bound (fun _ => d) (fun _ => d) :=
  fun _ _ _ _ _ _ h => h

theorem carries_string : Carries bound decodeString decodeString := by
  intro r room v a hv _ h
  cases r with
  | string s =>
      cases hv
      exact h
  | unreadable f g => cases hv
  | null | bool | number | array | object => cases h

theorem decodeAny_eq_ok_iff {room : Nat} {r : Reading} {v : Json} :
    decodeAny room r = .ok v ↔ r.toJson room = .ok v := by
  rw [decodeAny]
  cases r.toJson room <;> simp [ofFault]

theorem decodeAny_ofJson {room : Nat} {v : Json} (h : v.depth ≤ room) :
    decodeAny room (.ofJson v) = .ok v.sorted := by
  rw [decodeAny, toJson_ofJson room v h]
  rfl

theorem carries_any {room : Nat} : Carries bound (decodeAny room) (decodeAny bound) := by
  intro r room' v a hv hdepth h
  obtain rfl := toJson_unique room' room r v a hv (decodeAny_eq_ok_iff.mp h)
  exact decodeAny_eq_ok_iff.mpr (ofJson_toJson hv hdepth)

theorem decodeOption_of_ne_null {r : Reading} (h : r ≠ .null) :
    decodeOption decode r = (decode r).map some := by
  cases r with
  | null => exact absurd rfl h
  | bool | number | string | unreadable | array | object => rfl

theorem Carries.option (h : Carries bound decode decode') :
    Carries bound (decodeOption decode) (decodeOption decode') := by
  intro r room v a hv hdepth ha
  by_cases hnull : r = .null
  · subst hnull
    cases hv
    exact ha
  · have hofJson : Reading.ofJson v ≠ .null := by
      cases r with
      | null => exact absurd rfl hnull
      | bool | number | string =>
          cases hv
          simp [Reading.ofJson]
      | unreadable => cases hv
      | array =>
          obtain ⟨n, -, -, vs, -, rfl⟩ := toJson_array_eq_ok_iff.mp hv
          simp [Reading.ofJson]
      | object =>
          obtain ⟨n, -, -, ms, -, rfl⟩ := toJson_object_eq_ok_iff.mp hv
          simp [Reading.ofJson]
    rw [decodeOption_of_ne_null hnull] at ha
    rw [decodeOption_of_ne_null hofJson]
    cases hb : decode r with
    | error e =>
        rw [hb] at ha
        cases ha
    | ok b =>
        rw [hb] at ha
        rw [h r room v b hv hdepth hb]
        exact ha

theorem decodeItems_cons_eq_ok_iff {r : Reading} {rest : List Reading} {as : List α} :
    decodeItems decode (r :: rest) = .ok as ↔
      ∃ a, decode r = .ok a ∧ ∃ bs, decodeItems decode rest = .ok bs ∧ a :: bs = as := by
  simp only [decodeItems, bind_eq_ok_iff, pure_eq_ok_iff]

theorem decodeList_array_eq_ok_iff {items : List Reading} {ending : Option Fault} {as : List α} :
    decodeList decode (.array items ending) = .ok as ↔
      ending = none ∧ decodeItems decode items = .ok as := by
  rw [decodeList, bind_eq_ok_iff]
  cases ending with
  | none => simp [atEnd, bind, Except.bind, pure, Except.pure]
  | some f => simp [atEnd, bind, Except.bind]

theorem exists_array_of_decodeList {r : Reading} {as : List α} (h : decodeList decode r = .ok as) :
    ∃ items, r = .array items none ∧ decodeItems decode items = .ok as := by
  cases r with
  | array items ending =>
      obtain ⟨rfl, hitems⟩ := decodeList_array_eq_ok_iff.mp h
      exact ⟨items, rfl, hitems⟩
  | null | bool | number | string | unreadable | object => cases h

/-- Each item of a list that is decoded is decoded to one of its values. -/
theorem exists_of_mem_decodeItems {items : List Reading} {as : List α}
    (h : decodeItems decode items = .ok as) {r : Reading} (hr : r ∈ items) : ∃ a ∈ as, decode r = .ok a := by
  induction items generalizing as with
  | nil => cases hr
  | cons item rest ih =>
      obtain ⟨a, ha, bs, hbs, rfl⟩ := decodeItems_cons_eq_ok_iff.mp h
      rcases List.mem_cons.mp hr with rfl | hr
      · exact ⟨a, List.mem_cons_self, ha⟩
      · obtain ⟨b, hb, hread⟩ := ih hbs hr
        exact ⟨b, List.mem_cons_of_mem a hb, hread⟩

/-- Where no item of a list is left out, the list is read as it is strictly. -/
theorem filterMap_eq_of_decodeItems {α : Type} {decode : Reading → Decoded α}
    {ofJson? : Json → Option α} {n : Nat} {items : List Reading} {vs : List Json} {as : List α}
    (hvs : itemsToJson n items = .ok vs) (has : decodeItems decode items = .ok as)
    (hread : ∀ v ∈ vs, ∀ r a, r.toJson n = .ok v → decode r = .ok a → ofJson? v = some a) :
    vs.filterMap ofJson? = as := by
  induction items generalizing vs as with
  | nil =>
      cases hvs
      cases has
      rfl
  | cons r rest ih =>
      obtain ⟨v, hv, ws, hws, rfl⟩ := itemsToJson_cons_eq_ok_iff.mp hvs
      obtain ⟨a, ha, bs, hbs, rfl⟩ := decodeItems_cons_eq_ok_iff.mp has
      obtain ⟨hfirst, hrest⟩ := List.forall_mem_cons.mp hread
      rw [List.filterMap_cons_some (hfirst r a hv ha), ih hws hbs hrest]

theorem Carries.items (h : Carries bound decode decode') {items : List Reading} {room : Nat}
    {vs : List Json} {as : List α} (hvs : itemsToJson room items = .ok vs)
    (hdepth : depthOfItems vs ≤ bound) (has : decodeItems decode items = .ok as) :
    decodeItems decode' (itemsOfJson vs) = .ok as := by
  induction items generalizing vs as with
  | nil =>
      cases hvs
      exact has
  | cons r rest ih =>
      obtain ⟨v, hv, ws, hws, rfl⟩ := itemsToJson_cons_eq_ok_iff.mp hvs
      obtain ⟨a, ha, bs, hbs, rfl⟩ := decodeItems_cons_eq_ok_iff.mp has
      obtain ⟨hfirst, hrest⟩ := Nat.max_le.mp hdepth
      exact decodeItems_cons_eq_ok_iff.mpr
        ⟨a, h r room v a hv hfirst ha, bs, ih hws hrest hbs, rfl⟩

/-- The items of a list lie one container deeper than the list. -/
theorem Carries.list (h : Carries (bound - 1) decode decode') :
    Carries bound (decodeList decode) (decodeList decode') := by
  intro r room v as hv hdepth has
  obtain ⟨items, rfl, hitems⟩ := exists_array_of_decodeList has
  obtain ⟨n, rfl, -, vs, hvs, rfl⟩ := toJson_array_eq_ok_iff.mp hv
  rw [depth] at hdepth
  exact decodeList_array_eq_ok_iff.mpr ⟨rfl, h.items hvs (by omega) hitems⟩

theorem decodeText_eq_ok_iff {α : Type} {decode : Reading → Decoded α} {text : String} {a : α} :
    decodeText decode text = .ok a ↔
      (readDocument text).ending = none ∧ decode (readDocument text).root = .ok a := by
  simp only [decodeText, bind_eq_ok_iff, pure_eq_ok_iff]
  cases (readDocument text).ending <;> simp [atEnd]

end

/-! ## Records -/

section

variable {σ : Type} {strict lenient : Record σ} {bound : Nat}

theorem length_itemsOfJson (vs : List Json) : (itemsOfJson vs).length = vs.length := by
  induction vs with
  | nil => rfl
  | cons v rest ih => rw [itemsOfJson, List.length_cons, List.length_cons, ih]

theorem length_of_itemsToJson {items : List Reading} {room : Nat} {vs : List Json}
    (h : itemsToJson room items = .ok vs) : vs.length = items.length := by
  induction items generalizing vs with
  | nil =>
      cases h
      rfl
  | cons r rest ih =>
      obtain ⟨v, -, ws, hws, rfl⟩ := itemsToJson_cons_eq_ok_iff.mp h
      rw [List.length_cons, List.length_cons, ih hws]

theorem fill_carries (hadd : ∀ s name, Carries bound (strict.add s name) (lenient.add s name))
    {room : Nat} {rs : List (String × Reading)} {values : List (String × Json)}
    (hvalues : Record.Values room rs values) (hdepth : ∀ m ∈ values, m.2.depth ≤ bound) {s s' : σ}
    (hfill : strict.fill s rs = .ok s') :
    lenient.fill s (values.map fun m => (m.1, .ofJson m.2)) = .ok s' := by
  induction hvalues generalizing s with
  | nil => exact hfill
  | @cons m v rs vs hmv _ ih =>
      obtain ⟨name, r⟩ := m
      obtain ⟨n, w⟩ := v
      obtain ⟨rfl, hw⟩ := hmv
      obtain ⟨t, ht, hrest⟩ := Record.fill_cons_eq_ok_iff.mp hfill
      obtain ⟨hfirst, hothers⟩ := List.forall_mem_cons.mp hdepth
      exact Record.fill_cons_eq_ok_iff.mpr
        ⟨t, hadd s name r room w t hw hfirst ht, ih hothers hrest⟩

theorem items_carries (hadd : ∀ s name, Carries bound (strict.add s name) (lenient.add s name))
    {room : Nat} {items : List Reading} {vs : List Json} (hvs : itemsToJson room items = .ok vs)
    (hdepth : depthOfItems vs ≤ bound) {fields : List Field} {s s' : σ}
    (hitems : strict.items s fields items = .ok s') :
    lenient.items s fields (itemsOfJson vs) = .ok s' := by
  induction items generalizing vs fields s with
  | nil =>
      cases hvs
      cases fields <;> exact hitems
  | cons r rest ih =>
      obtain ⟨v, hv, ws, hws, rfl⟩ := itemsToJson_cons_eq_ok_iff.mp hvs
      obtain ⟨hfirst, hrest⟩ := Nat.max_le.mp hdepth
      cases fields with
      | nil => exact hitems
      | cons field fields =>
          rw [Record.items, bind_eq_ok_iff] at hitems
          obtain ⟨t, ht, hothers⟩ := hitems
          rw [itemsOfJson, Record.items, bind_eq_ok_iff]
          exact ⟨t, hadd s field.name r room v t hv hfirst ht, ih hws hrest hothers⟩

theorem given_map {α β : Type} (record : Record σ) (f : α → β) (members : List (String × α)) :
    record.given (members.map fun m => (m.1, f m.2))
      = (record.given members).map fun m => (m.1, f m.2) := by
  induction members with
  | nil => rfl
  | cons m rest ih =>
      obtain ⟨key, a⟩ := m
      cases hof : record.fieldOf key with
      | none =>
          rw [List.map_cons, Record.given_cons_of_none hof, Record.given_cons_of_none hof, ih]
      | some name =>
          rw [List.map_cons, Record.given_cons_of_some hof, Record.given_cons_of_some hof, ih]
          rfl

/-- A record whose fields are independent is read from the value of a text as it is from the text. -/
theorem carries_record (hfields : strict.fields = lenient.fields)
    (hstart : strict.start = lenient.start) (hindependent : lenient.Independent)
    (hadd : ∀ s name, Carries bound (strict.add s name) (lenient.add s name)) :
    Carries bound strict.decode lenient.decodeRead := by
  intro r room v s hv hdepth hread
  have hgiven : ∀ {α : Type} (members : List (String × α)),
      strict.given members = lenient.given members := by
    intro α members
    simp only [Record.given, Record.fieldOf, hfields]
  cases r with
  | object members ending =>
      obtain ⟨n, rfl, rfl, ms, hms, rfl⟩ := toJson_object_eq_ok_iff.mp hv
      obtain ⟨rs, rfl, hvalues⟩ := Record.exists_values hms
      obtain ⟨hnodup, hfill⟩ := Record.decodeWith_keyed_eq_ok_iff.mp hread
      have hvaluesGiven : Record.Values n (lenient.given rs) (lenient.given ms) := hvalues.given
      rw [hgiven] at hnodup hfill
      have hnodupValues : ((lenient.given ms).map Prod.fst).Nodup := by
        rwa [hvaluesGiven.map_fst] at hnodup
      have hsorted := (Record.given_sortMembers_perm hnodupValues).symm
      have hdepths : ∀ m ∈ lenient.given ms, m.2.depth ≤ bound := by
        intro m hm
        rw [depth] at hdepth
        obtain ⟨key, hmem, -⟩ := Record.mem_given_iff.mp (hsorted.mem_iff.mp hm)
        exact depthOfMembers_le_iff.mp (Nat.le_of_succ_le hdepth) (key, m.2) hmem
      have hfillValues := fill_carries hadd hvaluesGiven hdepths hfill
      rw [Reading.ofJson, membersOfJson_eq_keyed]
      refine Record.decodeWith_keyed_eq_ok_iff.mpr ?_
      rw [given_map, ← hstart]
      have hperm := hsorted.map fun m => (m.1, Reading.ofJson m.2)
      have hnodupReadings : (((lenient.given ms).map fun m => (m.1, Reading.ofJson m.2)).map
          Prod.fst).Nodup := by
        rwa [List.map_map]
      exact ⟨((hperm.map Prod.fst).nodup_iff).mp hnodupReadings,
        Record.fill_perm hindependent hperm hnodupReadings hfillValues⟩
  | array items ending =>
      obtain ⟨n, rfl, rfl, vs, hvs, rfl⟩ := toJson_array_eq_ok_iff.mp hv
      obtain ⟨hitems, hlength, -, hcheck⟩ := Record.decodeWith_array_eq_ok_iff.mp hread
      have hsame : (itemsOfJson vs).length = items.length := by
        rw [length_itemsOfJson, length_of_itemsToJson hvs]
      refine Record.decodeWith_array_eq_ok_iff.mpr ⟨?_, ?_, rfl, ?_⟩
      · rw [← hstart, ← hfields]
        exact items_carries hadd hvs (Nat.le_of_succ_le hdepth) hitems
      · rwa [hsame, ← hfields]
      · rwa [hsame, Record.checkLength_eq_ok_iff, ← hfields, ← Record.checkLength_eq_ok_iff]
  | null | bool | number | string | unreadable => cases hread

end

end Audience.Json
