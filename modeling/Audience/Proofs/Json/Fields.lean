import Audience.Proofs.Json.Reread

set_option autoImplicit false

/-! # What a record is given for its fields

A record is written as an object or as an array. Either way it is given values for some of its fields, once
for each: by their names, or by their places. `Record.entries` lists them, and reading the record is filling
them in (`Record.fill_entries_of_decodeWith`), so a field holds what its entry is decoded to, or what it
starts with (`Record.Holds.of_entries`).

Where fields have one name each and taking one in depends on its value alone, the value of a text is read as
a record exactly if each field can take in the member of its name (`Record.exists_decodeWith_ofJson_iff`). -/

namespace Audience.Json

/-- Whether a reading is an object. -/
def Reading.isObject : Reading → Bool
  | .object _ _ => true
  | _ => false

/-- Whether a reading may be one of a record: an object or an array. -/
def Reading.isRecord : Reading → Bool
  | .object _ _ | .array _ _ => true
  | _ => false

namespace Record

variable {σ : Type}

/-! ## Entries -/

/-- The values that a reading gives for the fields of a record, each under the name of the field: those of
members in an object, and the items in their order in an array. -/
def entries (record : Record σ) : Reading → List (String × Reading)
  | .object members _ => record.given (members.filterMap fun m => m.1.toOption.map (·, m.2))
  | .array items _ => (record.fields.map (·.name)).zip items
  | _ => []

variable {record : Record σ}

theorem entries_keyed (rs : List (String × Reading)) (ending : Option Fault) :
    record.entries (.object (keyed rs) ending) = record.given rs := by
  have hkeyed : (keyed rs).filterMap (fun m => m.1.toOption.map (·, m.2)) = rs := by
    induction rs with
    | nil => rfl
    | cons m rest ih => rw [keyed, List.map_cons]; exact congrArg (m :: ·) ih
  rw [entries, hkeyed]

/-- Members that are decoded have keys that can be read. -/
theorem exists_keyed_of_members {members : List (Except Fault String × Reading)} {s s' : σ}
    {seen : List String} (h : record.members s seen members = .ok s') : ∃ rs, members = keyed rs := by
  induction members generalizing s seen with
  | nil => exact ⟨[], rfl⟩
  | cons m rest ih =>
      obtain ⟨key, r⟩ := m
      rw [Record.members, bind_eq_ok_iff] at h
      obtain ⟨name, hkey, h⟩ := h
      obtain ⟨rs, rfl⟩ : ∃ rs, rest = keyed rs := by
        split at h
        · exact ih h
        · split at h
          · simp [mismatch] at h
          · obtain ⟨t, -, h⟩ := bind_eq_ok_iff.mp h
            exact ih h
      cases key with
      | ok key => exact ⟨(key, r) :: rs, rfl⟩
      | error f => simp [ofFault] at hkey

/-- Items are filled in as the fields in order. -/
theorem items_eq_fill (fields : List Field) (items : List Reading) (s : σ) :
    record.items s fields items = record.fill s ((fields.map (·.name)).zip items) := by
  induction fields generalizing s items with
  | nil => rfl
  | cons f fields ih =>
      cases items with
      | nil => rfl
      | cons r rest =>
          rw [Record.items, List.map_cons, List.zip_cons_cons, fill, List.foldlM_cons]
          exact bind_congr fun t => ih rest t

theorem Distinct.nodup_names (h : record.Distinct) : (record.fields.map (·.name)).Nodup := by
  have hnames : (record.fields.map (·.name)).Sublist (record.fields.flatMap Field.names) := by
    induction record.fields with
    | nil => exact .slnil
    | cons f fields ih =>
        rw [List.map_cons, List.flatMap_cons, Field.names, List.cons_append]
        exact (ih.trans (List.sublist_append_right _ _)).cons_cons _
  exact h.sublist hnames

theorem map_fst_zip_sublist {α β : Type} (names : List α) (items : List β) :
    ((names.zip items).map Prod.fst).Sublist names := by
  induction names generalizing items with
  | nil => exact .slnil
  | cons name names ih =>
      cases items with
      | nil => exact List.nil_sublist _
      | cons item items => exact (ih items).cons_cons name

/-- Whatever it is written as, a record is read by filling in what it is given for its fields. No field is
given twice. -/
theorem fill_entries_of_decodeWith (hdistinct : record.Distinct) {leftOver : Nat → DecodeError}
    {r : Reading} {s : σ} (h : record.decodeWith leftOver r = .ok s) :
    ((record.entries r).map Prod.fst).Nodup ∧ record.fill record.start (record.entries r) = .ok s := by
  cases r with
  | object members ending =>
      obtain ⟨rfl, hmembers⟩ := decodeWith_object_eq_ok_iff.mp h
      obtain ⟨rs, rfl⟩ := exists_keyed_of_members hmembers
      rw [entries_keyed]
      exact decodeWith_keyed_eq_ok_iff.mp h
  | array items ending =>
      obtain ⟨hitems, -⟩ := decodeWith_array_eq_ok_iff.mp h
      rw [items_eq_fill] at hitems
      exact ⟨hdistinct.nodup_names.sublist (map_fst_zip_sublist _ items), hitems⟩
  | null | bool | number | string | unreadable => cases h

theorem isRecord_of_decodeWith {leftOver : Nat → DecodeError} {r : Reading} {s : σ}
    (h : record.decodeWith leftOver r = .ok s) : r.isRecord = true := by
  cases r with
  | object | array => rfl
  | null | bool | number | string | unreadable => cases h

theorem field_of_mem_entries {r : Reading} {m : String × Reading} (h : m ∈ record.entries r) :
    ∃ f ∈ record.fields, f.name = m.1 := by
  cases r with
  | object members ending => exact field_of_mem_given h
  | array items ending => exact List.mem_map.mp (List.of_mem_zip h).1
  | null | bool | number | string | unreadable => cases h

/-- A field that a record was not given is what it starts with, and one that was given holds what its entry is
decoded to. -/
theorem Holds.of_entries {β : Type} {f : Field} {get : σ → β} {decode : Reading → Decoded β}
    (hholds : record.Holds f get decode) (hdistinct : record.Distinct) {leftOver : Nat → DecodeError}
    {r : Reading} {s : σ} (h : record.decodeWith leftOver r = .ok s) :
    (f.name ∉ (record.entries r).map Prod.fst → get s = get record.start) ∧
      ∀ x, (f.name, x) ∈ record.entries r → decode x = .ok (get s) := by
  obtain ⟨hnodup, hfill⟩ := fill_entries_of_decodeWith hdistinct h
  exact hholds.fill (fun _ => field_of_mem_entries) hnodup hfill

/-- The entry for a field, by the name of the field. -/
def valueFor? (record : Record σ) (r : Reading) (name : String) : Option Reading :=
  (record.entries r).lookup name

/-- The items of the list that a record is given for a field. -/
def listed (record : Record σ) (r : Reading) (name : String) : List Reading :=
  match record.valueFor? r name with
  | some (.array items _) => items
  | _ => []

theorem Holds.valueFor?_cases {β : Type} {f : Field} {get : σ → β} {decode : Reading → Decoded β}
    (hholds : record.Holds f get decode) (hdistinct : record.Distinct) {leftOver : Nat → DecodeError}
    {r : Reading} {s : σ} (h : record.decodeWith leftOver r = .ok s) :
    (record.valueFor? r f.name = none ∧ get s = get record.start) ∨
      ∃ x, record.valueFor? r f.name = some x ∧ decode x = .ok (get s) := by
  obtain ⟨hstart, hentry⟩ := hholds.of_entries hdistinct h
  cases hfound : record.valueFor? r f.name with
  | none =>
      refine .inl ⟨rfl, hstart fun hname => ?_⟩
      obtain ⟨m, hm, heq⟩ := List.mem_map.mp hname
      have hne := List.lookup_eq_none_iff.mp hfound m hm
      rw [heq] at hne
      simp at hne
  | some x =>
      obtain ⟨front, back, heq, -⟩ := List.lookup_eq_some_iff.mp hfound
      refine .inr ⟨x, rfl, hentry x ?_⟩
      rw [heq]
      exact List.mem_append_right front List.mem_cons_self

/-- A list in a record is decoded from the items that are given for it. -/
theorem Holds.decodeItems_listed {α : Type} {f : Field} {get : σ → List α}
    {decode : Reading → Decoded α} (hholds : record.Holds f get (decodeList decode))
    (hdistinct : record.Distinct) (hstart : get record.start = []) {leftOver : Nat → DecodeError}
    {r : Reading} {s : σ} (h : record.decodeWith leftOver r = .ok s) :
    decodeItems decode (record.listed r f.name) = .ok (get s) := by
  rcases hholds.valueFor?_cases hdistinct h with ⟨hnone, hget⟩ | ⟨x, hsome, hx⟩
  · rw [listed, hnone, hget, hstart]
    rfl
  · obtain ⟨items, rfl, hitems⟩ := exists_array_of_decodeList hx
    rw [listed, hsome]
    exact hitems

/-! ## Records of values -/

/-- Whether fields have one name each. -/
def Plain (record : Record σ) : Prop :=
  ∀ f ∈ record.fields, f.aliases = []

/-- Whether a field takes in a value or not, whatever was filled in before. -/
def Steady (record : Record σ) : Prop :=
  ∀ s t name r u, record.add s name r = .ok u → ∃ u', record.add t name r = .ok u'

theorem exists_fill_iff (hsteady : record.Steady) {given : List (String × Reading)} {s : σ} :
    (∃ u, record.fill s given = .ok u) ↔ ∀ m ∈ given, ∃ u, record.add record.start m.1 m.2 = .ok u := by
  induction given generalizing s with
  | nil => simp [fill_nil]
  | cons m rest ih =>
      simp only [fill_cons_eq_ok_iff, List.forall_mem_cons]
      constructor
      · rintro ⟨u, t, hadd, hfill⟩
        exact ⟨hsteady s record.start m.1 m.2 t hadd, ih.mp ⟨u, hfill⟩⟩
      · rintro ⟨⟨u, hadd⟩, hrest⟩
        obtain ⟨t, hadd⟩ := hsteady record.start s m.1 m.2 u hadd
        obtain ⟨u, hfill⟩ := ih (s := t) |>.mpr hrest
        exact ⟨u, t, hadd, hfill⟩

theorem Plain.fieldOf_eq_some_iff (hplain : record.Plain) {key name : String} :
    record.fieldOf key = some name ↔ key = name ∧ ∃ f ∈ record.fields, f.name = name := by
  constructor
  · intro h
    obtain ⟨f, hfind, hname⟩ := Option.map_eq_some_iff.mp h
    have hmem := List.mem_of_find?_eq_some hfind
    have hkey : key ∈ f.names := Field.answersTo_iff.mp (by simpa using List.find?_some hfind)
    rw [Field.names, hplain f hmem, List.mem_singleton, hname] at hkey
    exact ⟨hkey, f, hmem, hname⟩
  · rintro ⟨rfl, f, hf, hname⟩
    cases hof : record.fieldOf key with
    | none =>
        have hnone := List.find?_eq_none.mp (Option.map_eq_none_iff.mp hof) f hf
        exact absurd (Field.answersTo_iff.mpr (hname ▸ List.mem_cons_self)) hnone
    | some found =>
        obtain ⟨g, hfind, rfl⟩ := Option.map_eq_some_iff.mp hof
        have hkey : key ∈ g.names := Field.answersTo_iff.mp (by simpa using List.find?_some hfind)
        rw [Field.names, hplain g (List.mem_of_find?_eq_some hfind), List.mem_singleton] at hkey
        rw [hkey]

theorem Plain.mem_given_iff (hplain : record.Plain) {α : Type} {members : List (String × α)}
    {name : String} {a : α} :
    (name, a) ∈ record.given members ↔ (∃ f ∈ record.fields, f.name = name) ∧ (name, a) ∈ members := by
  simp only [Record.mem_given_iff, hplain.fieldOf_eq_some_iff]
  constructor
  · rintro ⟨_, hmem, rfl, hfield⟩
    exact ⟨hfield, hmem⟩
  · rintro ⟨hfield, hmem⟩
    exact ⟨name, hmem, rfl, hfield⟩

/-- Where fields have one name each, the members with these names are given as they are. -/
theorem Plain.given_sublist (hplain : record.Plain) {α : Type} (members : List (String × α)) :
    (record.given members).Sublist members := by
  induction members with
  | nil => exact .slnil
  | cons m rest ih =>
      obtain ⟨key, a⟩ := m
      cases hof : record.fieldOf key with
      | none =>
          rw [given_cons_of_none hof]
          exact ih.cons _
      | some name =>
          obtain ⟨rfl, -⟩ := hplain.fieldOf_eq_some_iff.mp hof
          rw [given_cons_of_some hof]
          exact ih.cons_cons _

theorem Plain.lookup_given (hplain : record.Plain) {f : Field} (hf : f ∈ record.fields) {α : Type}
    (members : List (String × α)) : (record.given members).lookup f.name = members.lookup f.name := by
  induction members with
  | nil => rfl
  | cons m rest ih =>
      obtain ⟨key, a⟩ := m
      by_cases hkey : f.name = key
      · subst hkey
        rw [given_cons_of_some (hplain.fieldOf_eq_some_iff.mpr ⟨rfl, f, hf, rfl⟩), List.lookup_cons_self,
          List.lookup_cons_self]
      · have hne : (f.name == key) = false := by simpa using hkey
        rw [List.lookup_cons, hne]
        cases hof : record.fieldOf key with
        | none => rw [given_cons_of_none hof, ih]
        | some name =>
            obtain ⟨rfl, -⟩ := hplain.fieldOf_eq_some_iff.mp hof
            rw [given_cons_of_some hof, List.lookup_cons, hne, ih]

/-- What an object gives for a field is the member of its name. -/
theorem Plain.valueFor?_ofJson (hplain : record.Plain) {f : Field} (hf : f ∈ record.fields)
    (members : List (String × Json)) :
    record.valueFor? (.ofJson (.object members)) f.name =
      ((Json.object members).member? f.name).map .ofJson := by
  have hlookup : ((members.map fun m => (m.1, Reading.ofJson m.2)).lookup f.name) =
      (members.lookup f.name).map .ofJson := by
    induction members with
    | nil => rfl
    | cons m rest ih =>
        rw [List.map_cons, List.lookup_cons, List.lookup_cons]
        split
        · rfl
        · exact ih
  rw [valueFor?, Reading.ofJson, membersOfJson_eq_keyed, entries_keyed, hplain.lookup_given hf, hlookup]
  rfl

/-- In a record that is read from a value, a field holds what the member of its name is decoded to, or else
what it starts with. -/
theorem Holds.of_ofJson {β : Type} {f : Field} {get : σ → β} {decode : Reading → Decoded β}
    (hholds : record.Holds f get decode) (hplain : record.Plain) (hdistinct : record.Distinct)
    {leftOver : Nat → DecodeError} {members : List (String × Json)} {s : σ}
    (h : record.decodeWith leftOver (.ofJson (.object members)) = .ok s) :
    ((Json.object members).member? f.name = none ∧ get s = get record.start) ∨
      ∃ w, (Json.object members).member? f.name = some w ∧ decode (.ofJson w) = .ok (get s) := by
  have hvalue := hplain.valueFor?_ofJson hholds.mem members
  rcases hholds.valueFor?_cases hdistinct h with ⟨hnone, hstart⟩ | ⟨x, hsome, hdecode⟩
  · exact .inl ⟨Option.map_eq_none_iff.mp (hvalue ▸ hnone), hstart⟩
  · obtain ⟨w, hw, rfl⟩ := Option.map_eq_some_iff.mp (hvalue ▸ hsome)
    exact .inr ⟨w, hw, hdecode⟩

/-- A value is read as a record exactly if each field can take in the member of its name. -/
theorem exists_decodeWith_ofJson_iff (hplain : record.Plain) (hsteady : record.Steady)
    {leftOver : Nat → DecodeError} {members : List (String × Json)} (hordered : Ordered members) :
    (∃ s, record.decodeWith leftOver (.ofJson (.object members)) = .ok s) ↔
      ∀ f ∈ record.fields, ∀ w, (Json.object members).member? f.name = some w →
        ∃ s, record.add record.start f.name (.ofJson w) = .ok s := by
  have hnodup : ((record.given members).map Prod.fst).Nodup :=
    hordered.nodup.sublist ((hplain.given_sublist members).map Prod.fst)
  have hread : (∃ s, record.decodeWith leftOver (.ofJson (.object members)) = .ok s) ↔
      ∀ m ∈ record.given members, ∃ s, record.add record.start m.1 (.ofJson m.2) = .ok s := by
    rw [Reading.ofJson, membersOfJson_eq_keyed]
    simp only [decodeWith_keyed_eq_ok_iff, given_map, List.map_map, exists_and_left,
      exists_fill_iff hsteady, List.forall_mem_map]
    exact and_iff_right hnodup
  rw [hread]
  constructor
  · intro h f hf w hw
    exact h (f.name, w) (hplain.mem_given_iff.mpr ⟨⟨f, hf, rfl⟩, mem_of_member? hw⟩)
  · rintro h ⟨name, w⟩ hm
    obtain ⟨⟨f, hf, rfl⟩, hmem⟩ := hplain.mem_given_iff.mp hm
    exact h f hf w (hordered.member?_eq hmem)

end Record

end Audience.Json
