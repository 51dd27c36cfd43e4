import Audience.Json.Decode
import Audience.Proofs.Json.Sorting
import Mathlib.Data.List.Nodup

set_option autoImplicit false

/-! # Records read from their members

What a record is read as depends only on the members that belong to its fields: each field is given at
most once, and the fields that are given are filled in one after the other
(`members_keyed_eq_ok_iff`). A field holds what its own member was decoded to, or what it started as
(`Holds.cases`), and where fields do not depend on one another, their order does not matter
(`fill_perm`). -/

namespace Audience.Json

/-! ## Members and fields -/

/-- Members whose keys could all be read. -/
def keyed (members : List (String × Reading)) : List (Except Fault String × Reading) :=
  members.map fun m => (.ok m.1, m.2)

theorem membersOfJson_eq_keyed (members : List (String × Json)) :
    membersOfJson members = keyed (members.map fun m => (m.1, .ofJson m.2)) := by
  induction members with
  | nil => rfl
  | cons m rest ih => rw [membersOfJson, ih]; rfl

/-- A field is known by its name and by its other names. -/
def Field.names (f : Field) : List String :=
  f.name :: f.aliases

theorem Field.answersTo_iff {f : Field} {key : String} : f.answersTo key = true ↔ key ∈ f.names := by
  simp only [Field.answersTo, Field.names, Bool.or_eq_true, beq_iff_eq, List.contains_iff_mem,
    List.mem_cons]
  rw [eq_comm]

/-- The member of a value that is for a field: the first of its names counts. -/
def Field.member? (f : Field) (v : Json) : Option Json :=
  f.names.findSome? fun name => Json.member? name v

theorem Field.member?_plain (name : String) (v : Json) :
    (Field.plain name).member? v = v.member? name := by
  simp [Field.member?, Field.names, Field.plain]

theorem Field.member?_aliased (name other : String) (defaulted : Bool) (v : Json) :
    Field.member? ⟨name, [other], defaulted⟩ v = (v.member? name).or (v.member? other) := by
  cases hname : v.member? name <;> cases hother : v.member? other <;>
    simp [Field.member?, Field.names, hname, hother]

namespace Record

variable {σ : Type} (record : Record σ)

/-- The name of the field that a key is for. -/
def fieldOf (key : String) : Option String :=
  (record.fields.find? (·.answersTo key)).map (·.name)

/-- The members that are for fields, under the names of these. -/
def given {α : Type} (members : List (String × α)) : List (String × α) :=
  members.filterMap fun m => (record.fieldOf m.1).map (·, m.2)

/-- Fill fields in, one after the other. -/
def fill (s : σ) (given : List (String × Reading)) : Decoded σ :=
  given.foldlM (fun s m => record.add s m.1 m.2) s

/-- No name belongs to two fields. -/
def Distinct : Prop :=
  (record.fields.flatMap Field.names).Nodup

variable {record}

theorem fill_nil (s : σ) : record.fill s [] = .ok s :=
  rfl

theorem fill_cons_eq_ok_iff {s s' : σ} {m : String × Reading} {rest : List (String × Reading)} :
    record.fill s (m :: rest) = .ok s' ↔
      ∃ t, record.add s m.1 m.2 = .ok t ∧ record.fill t rest = .ok s' := by
  simp only [fill, List.foldlM_cons, bind_eq_ok_iff]

theorem fill_append_eq_ok {s t s' : σ} {first rest : List (String × Reading)}
    (hfirst : record.fill s first = .ok t) (hrest : record.fill t rest = .ok s') :
    record.fill s (first ++ rest) = .ok s' := by
  simp only [fill, List.foldlM_append] at *
  rw [hfirst]
  exact hrest

theorem given_cons_of_none {α : Type} {key : String} (h : record.fieldOf key = none) (a : α)
    (members : List (String × α)) : record.given ((key, a) :: members) = record.given members := by
  simp [given, h]

theorem given_cons_of_some {α : Type} {key name : String} (h : record.fieldOf key = some name) (a : α)
    (members : List (String × α)) :
    record.given ((key, a) :: members) = (name, a) :: record.given members := by
  simp [given, h]

theorem members_keyed_cons_of_none {key : String}
    (h : record.fields.find? (·.answersTo key) = none) (s : σ) (seen : List String) (r : Reading)
    (rest : List (String × Reading)) :
    record.members s seen (keyed ((key, r) :: rest)) = record.members s seen (keyed rest) := by
  rw [keyed, List.map_cons, Record.members]
  simp only [ofFault, bind, Except.bind, h]
  rfl

theorem members_keyed_cons_of_some {key : String} {field : Field}
    (h : record.fields.find? (·.answersTo key) = some field) (s : σ) (seen : List String)
    (r : Reading) (rest : List (String × Reading)) :
    record.members s seen (keyed ((key, r) :: rest)) =
      if field.name ∈ seen then mismatch (.duplicateField field.name)
      else record.add s field.name r >>= fun t =>
        record.members t (field.name :: seen) (keyed rest) := by
  rw [keyed, List.map_cons, Record.members]
  simp only [ofFault, bind, Except.bind, h, List.contains_iff_mem]
  rfl

theorem mem_given_iff {α : Type} {members : List (String × α)} {name : String} {a : α} :
    (name, a) ∈ record.given members ↔
      ∃ key, (key, a) ∈ members ∧ record.fieldOf key = some name := by
  simp only [given, List.mem_filterMap, Option.map_eq_some_iff, Prod.mk.injEq]
  constructor
  · rintro ⟨⟨key, b⟩, hmem, n, hof, rfl, rfl⟩
    exact ⟨key, hmem, hof⟩
  · rintro ⟨key, hmem, hof⟩
    exact ⟨(key, a), hmem, name, hof, rfl, rfl⟩

/-- Members are read exactly if no field is given twice and all that are given can be filled in. -/
theorem members_keyed_eq_ok_iff {members : List (String × Reading)} {s s' : σ}
    {seen : List String} :
    record.members s seen (keyed members) = .ok s' ↔
      ((record.given members).map Prod.fst).Nodup ∧
      (∀ name ∈ (record.given members).map Prod.fst, name ∉ seen) ∧
      record.fill s (record.given members) = .ok s' := by
  induction members generalizing s seen with
  | nil => simp [keyed, Record.members, given, fill_nil]
  | cons m rest ih =>
      obtain ⟨key, r⟩ := m
      cases hfield : record.fields.find? (·.answersTo key) with
      | none =>
          have hof : record.fieldOf key = none := by rw [fieldOf, hfield]; rfl
          rw [members_keyed_cons_of_none hfield, given_cons_of_none hof, ih]
      | some field =>
          have hof : record.fieldOf key = some field.name := by rw [fieldOf, hfield]; rfl
          rw [members_keyed_cons_of_some hfield, given_cons_of_some hof, List.map_cons,
            List.nodup_cons, List.forall_mem_cons, fill_cons_eq_ok_iff]
          by_cases hseen : field.name ∈ seen
          · simp [hseen, mismatch]
          · rw [if_neg hseen, bind_eq_ok_iff]
            constructor
            · rintro ⟨t, hadd, hrest⟩
              obtain ⟨hnodup, hfresh, hfill⟩ := ih.mp hrest
              have hname : field.name ∉ (record.given rest).map Prod.fst :=
                fun h => hfresh _ h List.mem_cons_self
              exact ⟨⟨hname, hnodup⟩,
                ⟨hseen, fun n hn h => hfresh n hn (List.mem_cons_of_mem _ h)⟩, t, hadd, hfill⟩
            · rintro ⟨⟨hname, hnodup⟩, ⟨-, hfresh⟩, t, hadd, hfill⟩
              refine ⟨t, hadd, ih.mpr ⟨hnodup, fun n hn h => ?_, hfill⟩⟩
              rcases List.mem_cons.mp h with rfl | h
              · exact hname hn
              · exact hfresh n hn h

/-! ## The order of fields -/

/-- Whether a record has fields that do not depend on one another: either of two may come first. -/
def Independent (record : Record σ) : Prop :=
  ∀ m n : String × Reading, m.1 ≠ n.1 → ∀ s s' : σ,
    record.fill s [m, n] = .ok s' → record.fill s [n, m] = .ok s'

/-- The order in which fields are filled in does not matter. -/
theorem fill_perm (h : record.Independent) {given given' : List (String × Reading)}
    (hperm : given.Perm given') (hnodup : (given.map Prod.fst).Nodup) {s s' : σ}
    (hfill : record.fill s given = .ok s') : record.fill s given' = .ok s' := by
  induction hperm generalizing s with
  | nil => exact hfill
  | cons m _ ih =>
      obtain ⟨t, hadd, hrest⟩ := fill_cons_eq_ok_iff.mp hfill
      exact fill_cons_eq_ok_iff.mpr ⟨t, hadd, ih (List.nodup_cons.mp hnodup).2 hrest⟩
  | swap m n rest =>
      have hne : n.1 ≠ m.1 := by
        simp only [List.map_cons, List.nodup_cons, List.mem_cons, not_or] at hnodup
        exact hnodup.1.1
      obtain ⟨t, hn, hrest⟩ := fill_cons_eq_ok_iff.mp hfill
      obtain ⟨u, hm, hrest⟩ := fill_cons_eq_ok_iff.mp hrest
      have htwo : record.fill s [n, m] = .ok u :=
        fill_cons_eq_ok_iff.mpr ⟨t, hn, fill_cons_eq_ok_iff.mpr ⟨u, hm, fill_nil u⟩⟩
      exact fill_append_eq_ok (h n m hne s u htwo) hrest
  | trans hfirst _ ihfirst ihsecond =>
      exact ihsecond ((hfirst.map Prod.fst).nodup_iff.mp hnodup) (ihfirst hnodup hfill)

/-! ## What a field holds -/

/-- The fields that are given are fields of the record. -/
theorem field_of_mem_given {α : Type} {members : List (String × α)} {m : String × α}
    (h : m ∈ record.given members) : ∃ f ∈ record.fields, f.name = m.1 := by
  obtain ⟨key, -, hof⟩ := mem_given_iff.mp h
  obtain ⟨f, hfind, hname⟩ := Option.map_eq_some_iff.mp hof
  exact ⟨f, List.mem_of_find?_eq_some hfind, hname⟩

variable (record) in
/-- A field is the only one to determine a part of what a record is decoded to, and that part is what the
value of the field is decoded to. -/
structure Holds {β : Type} (f : Field) (get : σ → β) (decode : Reading → Decoded β) : Prop where
  mem : f ∈ record.fields
  set : ∀ s r s', record.add s f.name r = .ok s' → decode r = .ok (get s')
  frame : ∀ g ∈ record.fields, g.name ≠ f.name → ∀ s r s', record.add s g.name r = .ok s' →
    get s' = get s

/-- A field that was not given keeps what it held, and one that was given holds what it was given. -/
theorem Holds.fill {β : Type} {f : Field} {get : σ → β} {decode : Reading → Decoded β}
    (h : record.Holds f get decode) {given : List (String × Reading)}
    (hfields : ∀ m ∈ given, ∃ g ∈ record.fields, g.name = m.1)
    (hnodup : (given.map Prod.fst).Nodup) {s s' : σ} (hfill : record.fill s given = .ok s') :
    (f.name ∉ given.map Prod.fst → get s' = get s) ∧
      ∀ r, (f.name, r) ∈ given → decode r = .ok (get s') := by
  induction given generalizing s with
  | nil =>
      cases hfill
      simp
  | cons m rest ih =>
      obtain ⟨n, r⟩ := m
      obtain ⟨t, hadd, hrest⟩ := fill_cons_eq_ok_iff.mp hfill
      rw [List.map_cons, List.nodup_cons] at hnodup
      obtain ⟨⟨g, hg, rfl⟩, hothers⟩ := List.forall_mem_cons.mp hfields
      obtain ⟨hkeep, hget⟩ := ih hothers hnodup.2 hrest
      constructor
      · intro hname
        rw [List.map_cons, List.mem_cons, not_or] at hname
        rw [hkeep hname.2, h.frame g hg (Ne.symm hname.1) s r t hadd]
      · intro r' hmem
        rcases List.mem_cons.mp hmem with heq | hmem
        · obtain ⟨hname, rfl⟩ := Prod.mk.inj heq
          dsimp only at hname hadd hnodup
          rw [← hname] at hadd hnodup
          rw [hkeep hnodup.1]
          exact h.set s r' t hadd
        · exact hget r' hmem

/-- No two fields have a name in common. -/
theorem Distinct.eq_of_mem (h : record.Distinct) {f g : Field} (hf : f ∈ record.fields)
    (hg : g ∈ record.fields) {key : String} (hkf : key ∈ f.names) (hkg : key ∈ g.names) : f = g := by
  unfold Distinct at h
  generalize record.fields = fields at h hf hg
  induction fields with
  | nil => cases hf
  | cons e rest ih =>
      rw [List.flatMap_cons, List.nodup_append] at h
      obtain ⟨-, hrest, hdisjoint⟩ := h
      rcases List.mem_cons.mp hf with hfe | hfrest <;> rcases List.mem_cons.mp hg with hge | hgrest
      · rw [hfe, hge]
      · subst hfe
        exact absurd rfl (hdisjoint key hkf key (List.mem_flatMap.mpr ⟨g, hgrest, hkg⟩))
      · subst hge
        exact absurd rfl (hdisjoint key hkg key (List.mem_flatMap.mpr ⟨f, hfrest, hkf⟩))
      · exact ih hrest hfrest hgrest

theorem Distinct.fieldOf_eq_iff (h : record.Distinct) {f : Field} (hf : f ∈ record.fields)
    {key : String} : record.fieldOf key = some f.name ↔ key ∈ f.names := by
  constructor
  · intro hof
    obtain ⟨g, hfind, hname⟩ := Option.map_eq_some_iff.mp hof
    have hg := List.mem_of_find?_eq_some hfind
    have hkey : key ∈ g.names := Field.answersTo_iff.mp (by simpa using List.find?_some hfind)
    have hshared : f.name ∈ g.names := by
      rw [← hname]
      exact List.mem_cons_self
    rwa [h.eq_of_mem hf hg List.mem_cons_self hshared]
  · intro hkey
    cases hfind : record.fields.find? (·.answersTo key) with
    | none =>
        have hnot := List.find?_eq_none.mp hfind f hf
        exact absurd (Field.answersTo_iff.mpr hkey) (by simpa using hnot)
    | some g =>
        have hg := List.mem_of_find?_eq_some hfind
        have hkg : key ∈ g.names := Field.answersTo_iff.mp (by simpa using List.find?_some hfind)
        rw [fieldOf, hfind, h.eq_of_mem hf hg hkey hkg]
        rfl

/-- Members whose keys are names of fields are all given, as they are. -/
theorem given_eq_self {α : Type} (h : record.Distinct) {members : List (String × α)}
    (hnames : ∀ m ∈ members, m.1 ∈ record.fields.map (·.name)) :
    record.given members = members := by
  induction members with
  | nil => rfl
  | cons m rest ih =>
      obtain ⟨key, a⟩ := m
      obtain ⟨hfirst, hrest⟩ := List.forall_mem_cons.mp hnames
      obtain ⟨f, hf, rfl⟩ := List.mem_map.mp hfirst
      rw [given_cons_of_some ((h.fieldOf_eq_iff hf).mpr List.mem_cons_self), ih hrest]

/-! ## Members and their values -/

/-- Members and the values that were read from them, key for key. -/
def Values (room : Nat) (members : List (String × Reading)) (values : List (String × Json)) : Prop :=
  List.Forall₂ (fun m v => m.1 = v.1 ∧ m.2.toJson room = .ok v.2) members values

theorem exists_values {room : Nat} {members : List (Except Fault String × Reading)}
    {values : List (String × Json)} (h : membersToJson room members = .ok values) :
    ∃ rs, members = keyed rs ∧ Values room rs values := by
  induction members generalizing values with
  | nil =>
      cases h
      exact ⟨[], rfl, .nil⟩
  | cons m rest ih =>
      obtain ⟨key, r⟩ := m
      obtain ⟨k, rfl, v, hv, vs, hvs, rfl⟩ := membersToJson_cons_eq_ok_iff.mp h
      obtain ⟨rs, rfl, hrs⟩ := ih hvs
      exact ⟨(k, r) :: rs, rfl, .cons ⟨rfl, hv⟩ hrs⟩

theorem Values.given {room : Nat} {rs : List (String × Reading)} {values : List (String × Json)}
    (h : Values room rs values) : Values room (record.given rs) (record.given values) := by
  induction h with
  | nil => exact .nil
  | @cons m v rs vs hmv _ ih =>
      obtain ⟨key, r⟩ := m
      obtain ⟨k, w⟩ := v
      obtain ⟨rfl, hw⟩ := hmv
      cases hof : record.fieldOf key with
      | none => rwa [given_cons_of_none hof, given_cons_of_none hof]
      | some name =>
          rw [given_cons_of_some hof, given_cons_of_some hof]
          exact .cons ⟨rfl, hw⟩ ih

theorem Values.map_fst {room : Nat} {rs : List (String × Reading)} {values : List (String × Json)}
    (h : Values room rs values) : rs.map Prod.fst = values.map Prod.fst := by
  induction h with
  | nil => rfl
  | cons hmv _ ih => rw [List.map_cons, List.map_cons, hmv.1, ih]

theorem Values.exists_reading {room : Nat} {rs : List (String × Reading)}
    {values : List (String × Json)} (h : Values room rs values) {key : String} {w : Json}
    (hw : (key, w) ∈ values) : ∃ r, (key, r) ∈ rs ∧ r.toJson room = .ok w := by
  induction h with
  | nil => cases hw
  | @cons m v rs vs hmv _ ih =>
      rcases List.mem_cons.mp hw with rfl | hw
      · obtain ⟨k, r⟩ := m
        obtain ⟨rfl, hread⟩ := hmv
        exact ⟨r, List.mem_cons_self, hread⟩
      · obtain ⟨r, hr, hread⟩ := ih hw
        exact ⟨r, List.mem_cons_of_mem _ hr, hread⟩

theorem given_filter {α : Type} (members : List (String × α)) :
    record.given (members.filter fun m => (record.fieldOf m.1).isSome) = record.given members := by
  rw [given, List.filterMap_filter, given]
  congr 1
  funext m
  cases record.fieldOf m.1 <;> rfl

/-- Where no field is given twice, none of its keys is. -/
theorem nodup_filter_of_given {α : Type} {members : List (String × α)}
    (h : ((record.given members).map Prod.fst).Nodup) :
    ((members.filter fun m => (record.fieldOf m.1).isSome).map Prod.fst).Nodup := by
  have hmap : ((members.filter fun m => (record.fieldOf m.1).isSome).map Prod.fst).map
      record.fieldOf = ((record.given members).map Prod.fst).map some := by
    clear h
    induction members with
    | nil => rfl
    | cons m rest ih =>
        obtain ⟨key, a⟩ := m
        cases hof : record.fieldOf key with
        | none =>
            rw [given_cons_of_none hof, ← ih]
            simp [hof]
        | some name =>
            rw [given_cons_of_some hof, List.map_cons, List.map_cons, ← ih]
            simp [hof]
  refine List.Nodup.of_map record.fieldOf ?_
  rw [hmap]
  exact h.map fun _ _ heq => Option.some.inj heq

/-- Sorting the members of a value changes the order of the fields that are given, and nothing else. -/
theorem given_sortMembers_perm {values : List (String × Json)}
    (h : ((record.given values).map Prod.fst).Nodup) :
    (record.given (sortMembers values)).Perm (record.given values) := by
  have hsorted := filter_sortMembers_perm (p := fun key => (record.fieldOf key).isSome)
    (nodup_filter_of_given h)
  rw [← given_filter (sortMembers values), ← given_filter values]
  exact hsorted.filterMap _

/-- What it takes for an object to be read as a record. -/
theorem decodeWith_object_eq_ok_iff {leftOver : Nat → DecodeError}
    {members : List (Except Fault String × Reading)} {ending : Option Fault} {s : σ} :
    record.decodeWith leftOver (.object members ending) = .ok s ↔
      ending = none ∧ record.members record.start [] members = .ok s := by
  rw [decodeWith, bind_eq_ok_iff]
  cases ending with
  | none => simp [atEnd, bind, Except.bind, pure, Except.pure]
  | some f => simp [atEnd, bind, Except.bind]

theorem checkLength_eq_ok_iff {length : Nat} :
    record.checkLength length = .ok () ↔
      (record.fields.drop length).findIdx? (!·.defaulted) = none := by
  rw [checkLength]
  split
  · next h => simp [h]
  · next h => simp [h, mismatch]

/-- What it takes for an array to be read as a record. -/
theorem decodeWith_array_eq_ok_iff {leftOver : Nat → DecodeError} {items : List Reading}
    {ending : Option Fault} {s : σ} :
    record.decodeWith leftOver (.array items ending) = .ok s ↔
      record.items record.start record.fields items = .ok s ∧
        ¬ record.fields.length < items.length ∧ ending = none ∧
        record.checkLength items.length = .ok () := by
  rw [decodeWith, bind_eq_ok_iff]
  by_cases hlength : record.fields.length < items.length
  · simp [hlength]
  · cases ending with
    | some f => simp [hlength, atEnd, bind, Except.bind]
    | none =>
        cases record.checkLength items.length <;>
          simp [hlength, atEnd, bind, Except.bind, pure, Except.pure]

theorem decodeWith_keyed_eq_ok_iff {leftOver : Nat → DecodeError} {rs : List (String × Reading)}
    {s : σ} :
    record.decodeWith leftOver (.object (keyed rs) none) = .ok s ↔
      ((record.given rs).map Prod.fst).Nodup ∧
        record.fill record.start (record.given rs) = .ok s := by
  rw [decodeWith_object_eq_ok_iff, members_keyed_eq_ok_iff]
  simp

/-- Members under the names of fields, each of them once, are decoded as they are filled in. -/
theorem decodeWith_members {leftOver : Nat → DecodeError} (hdistinct : record.Distinct)
    {members : List (String × Json)} (hnames : ∀ m ∈ members, m.1 ∈ record.fields.map (·.name))
    (hkeys : (members.map Prod.fst).Nodup) {s : σ}
    (hfill : record.fill record.start (members.map fun m => (m.1, .ofJson m.2)) = .ok s) :
    record.decodeWith leftOver (.object (membersOfJson members) none) = .ok s := by
  have hreadings : ∀ m ∈ members.map fun m => (m.1, Reading.ofJson m.2),
      m.1 ∈ record.fields.map (·.name) := by
    intro m hm
    obtain ⟨given, hgiven, rfl⟩ := List.mem_map.mp hm
    exact hnames given hgiven
  rw [membersOfJson_eq_keyed]
  refine decodeWith_keyed_eq_ok_iff.mpr ?_
  rw [given_eq_self hdistinct hreadings, List.map_map]
  exact ⟨hkeys, hfill⟩

/-- A record that is read from an object has in every field what the member for it was decoded to; a
field without a member has what it starts with. -/
theorem Holds.cases {β : Type} {f : Field} {get : σ → β} {decode : Reading → Decoded β}
    (h : record.Holds f get decode) (hdistinct : record.Distinct)
    {members : List (Except Fault String × Reading)} {ending : Option Fault} {room : Nat} {v : Json}
    {s : σ} (hv : (Reading.object members ending).toJson room = .ok v)
    (hread : record.decode (.object members ending) = .ok s) :
    (f.member? v = none ∧ get s = get record.start) ∨
      ∃ w r n, f.member? v = some w ∧ r.toJson n = .ok w ∧ decode r = .ok (get s) := by
  obtain ⟨n, rfl, rfl, ms, hms, rfl⟩ := toJson_object_eq_ok_iff.mp hv
  obtain ⟨rs, rfl, hvalues⟩ := exists_values hms
  obtain ⟨hnodup, hfill⟩ := decodeWith_keyed_eq_ok_iff.mp hread
  obtain ⟨hkeep, hget⟩ := h.fill (fun _ => field_of_mem_given) hnodup hfill
  have hgiven : Values n (record.given rs) (record.given ms) := hvalues.given
  have hperm : (record.given (sortMembers ms)).Perm (record.given ms) := by
    rw [hgiven.map_fst] at hnodup
    exact given_sortMembers_perm hnodup
  cases hmember : f.member? (.object (sortMembers ms)) with
  | none =>
      refine Or.inl ⟨rfl, hkeep fun hname => ?_⟩
      rw [hgiven.map_fst, ← (hperm.map Prod.fst).mem_iff] at hname
      obtain ⟨⟨name, w⟩, hw, rfl⟩ := List.mem_map.mp hname
      obtain ⟨key, hmem, hof⟩ := mem_given_iff.mp hw
      have hkey : key ∈ f.names := (hdistinct.fieldOf_eq_iff h.mem).mp hof
      have hnone := List.findSome?_eq_none_iff.mp hmember key hkey
      have hne := List.lookup_eq_none_iff.mp hnone (key, w) hmem
      simp at hne
  | some w =>
      obtain ⟨key, hkey, hlookup⟩ := List.exists_of_findSome?_eq_some hmember
      have hmem : (key, w) ∈ sortMembers ms := mem_of_member? hlookup
      have hw : (f.name, w) ∈ record.given ms :=
        hperm.mem_iff.mp (mem_given_iff.mpr ⟨key, hmem, (hdistinct.fieldOf_eq_iff h.mem).mpr hkey⟩)
      obtain ⟨r, hr, hvalue⟩ := hgiven.exists_reading hw
      exact Or.inr ⟨w, r, n, rfl, hvalue, hget r hr⟩

/-- A field of a record that is read from an object is what is made of the member for it, where that is
made as it is decoded, and where nothing is made into what the field starts with. -/
theorem Holds.ofMember_eq {β : Type} {f : Field} {get : σ → β} {decode : Reading → Decoded β}
    (h : record.Holds f get decode) (hdistinct : record.Distinct) {ofMember : Option Json → β}
    {members : List (Except Fault String × Reading)} {ending : Option Fault} {room : Nat} {v : Json}
    {s : σ} (hv : (Reading.object members ending).toJson room = .ok v)
    (hread : record.decode (.object members ending) = .ok s)
    (hnone : ofMember none = get record.start)
    (hsome : ∀ w, f.member? v = some w → ∀ r n b, r.toJson n = .ok w → decode r = .ok b →
      ofMember (some w) = b) :
    ofMember (f.member? v) = get s := by
  rcases h.cases hdistinct hv hread with
    ⟨hmember, hstart⟩ | ⟨w, r, n, hmember, hw, hdecode⟩
  · rw [hmember, hstart, hnone]
  · rw [hmember]
    exact hsome w hmember r n (get s) hw hdecode

end Record

end Audience.Json
