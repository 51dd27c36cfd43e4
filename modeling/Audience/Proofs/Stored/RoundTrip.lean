import Audience.Proofs.Json.Record
import Audience.Proofs.Json.Scalar
import Audience.Stored.Reader
import Audience.Stored.Writer

set_option autoImplicit false

/-! # Stored segments read back

What is kept of a segment is read as that segment, and the size is counted anew
(`Tree.parse_kept`). A condition is read in two goes: its kind is sorted out of its members first
(`splitKind_tagged`), and the others are read as those of its kind. -/

namespace Audience

namespace Stored

open Json

/-! ## Scalars of stored segments -/

@[simp] theorem decodeUInt32_ofJson (n : UInt32) :
    decodeUInt32 (.ofJson (natJson n.toNat)) = .ok n := by
  have hlt := n.toNat_lt_size
  rw [decodeUInt32, natJson, decodeBetween_ofJson (by omega) (by omega)]
  simp [pure, Except.pure, bind, Except.bind]

@[simp] theorem decodeSize_ofJson (n : UInt64) :
    decodeSize (.ofJson (natJson n.toNat)) = .ok n := by
  have hlt := n.toNat_lt_size
  rw [decodeSize, natJson, decodeBetween_ofJson (by omega) (by omega)]
  simp [pure, Except.pure, bind, Except.bind]

@[simp] theorem decodeOption_optionalText (s : Option String) :
    decodeOption decodeString (.ofJson (optionalText s)) = .ok s := by
  cases s <;> rfl

@[simp] theorem decodeOption_optionalInt (n : Option Int64) :
    decodeOption decodeInt64 (.ofJson (optionalInt n)) = .ok n := by
  cases n with
  | none => rfl
  | some n =>
      have hread := decodeInt64_ofJson n
      simp only [optionalInt, Json.ofInt, Reading.ofJson, decodeOption] at hread ⊢
      rw [hread]
      rfl

theorem integral_natJson {n : Nat} (h : n ≤ maxSignificand) : Integral (natJson n) := by
  have hmin : Int64.minValue.toInt ≤ 0 := by decide
  exact integral_ofInt (by omega) (by omega)

/-! ## Conditions -/

theorem Attribute.distinct : Attribute.record.Distinct := by
  unfold Record.Distinct
  decide

theorem Attribute.decode_members (a : Attribute) :
    Attribute.record.decodeRead (.object (membersOfJson a.members) none) = .ok a := by
  refine Record.decodeWith_members Attribute.distinct
    (by simp [Attribute.members, Attribute.record, Field.plain]) (by simp [Attribute.members]) ?_
  simp [Attribute.members, Record.fill, Attribute.record, bind, Except.bind, pure, Except.pure]

theorem Event.distinct : Event.record.Distinct := by
  unfold Record.Distinct
  decide

theorem Event.decode_members (e : Event) :
    Event.record.decodeRead (.object (membersOfJson e.members) none) = .ok e := by
  have hattributes : decodeList Attribute.record.decodeRead
      (.ofJson (.array (e.attributes.map fun a => .object a.members))) = .ok e.attributes :=
    decodeList_self fun a _ => a.decode_members
  refine Record.decodeWith_members Event.distinct
    (by simp [Event.members, Event.record, Field.plain]) (by simp [Event.members]) ?_
  simp [Event.members, Record.fill, Event.record, bind, Except.bind, pure, Except.pure, hattributes]

/-- Members that do not name a kind are all left over, if there is room for their values. -/
theorem sortOut_others {room : Nat} (kind : Option Kind) {members : List (String × Json)}
    (htype : ∀ m ∈ members, m.1 ≠ "type") (hdepth : ∀ m ∈ members, m.2.depth ≤ room) :
    sortOut room kind (membersOfJson members) = .ok (kind, membersOfJson members) := by
  induction members with
  | nil => rfl
  | cons m rest ih =>
      obtain ⟨key, v⟩ := m
      obtain ⟨hkey, hkeys⟩ := List.forall_mem_cons.mp htype
      obtain ⟨hv, hvs⟩ := List.forall_mem_cons.mp hdepth
      have hread : readThrough room (.ofJson v) = .ok (.ofJson v) := by
        rw [readThrough, decodeAny, toJson_ofJson room v hv]
        rfl
      rw [membersOfJson, sortOut]
      simp [ofFault, hkey, hread, ih hkeys hvs, bind, Except.bind, pure, Except.pure]

/-- The kind in front of the members of a condition is sorted out. -/
theorem splitKind_tagged {room : Nat} {name : String} {kind : Kind}
    {members : List (String × Json)} (hkind : Kind.decode (.string name) = .ok kind)
    (htype : ∀ m ∈ members, m.1 ≠ "type") (hdepth : ∀ m ∈ members, m.2.depth ≤ room) :
    splitKind room (.ofJson (.object (("type", .string name) :: members)))
      = .ok (kind, .object (membersOfJson members) none) := by
  have hsort : sortOut room none (membersOfJson (("type", .string name) :: members))
      = .ok (some kind, membersOfJson members) := by
    rw [membersOfJson, sortOut]
    simp [ofFault, Reading.ofJson, hkind, sortOut_others (some kind) htype hdepth, bind, Except.bind]
  rw [Reading.ofJson, splitKind, hsort]
  rfl

theorem Attribute.depth_members (a : Attribute) : depthOfMembers a.members = 0 := by
  simp [Attribute.members, depthOfMembers, depth, natJson, Json.ofInt]

theorem Event.depth_members_le (e : Event) : depthOfMembers e.members ≤ 2 := by
  have hitems : depthOfItems (e.attributes.map fun a => .object a.members) ≤ 1 :=
    depthOfItems_map_le fun a _ => Nat.succ_le_succ (Nat.le_of_eq a.depth_members)
  have hunit : (optionalText e.unit).depth = 0 := by
    cases e.unit <;> rfl
  have hlength : (optionalInt e.length).depth = 0 := by
    cases e.length <;> rfl
  simp only [Event.members, depthOfMembers, depth, natJson, Json.ofInt, hunit, hlength]
  omega

/-- A condition is read back wherever there is room for two containers within it. -/
theorem Condition.decode_toJson {room : Nat} (hroom : 2 ≤ room) (c : Condition) :
    Condition.decode room (.ofJson c.toJson) = .ok c := by
  cases c with
  | «attribute» a =>
      have hdepth : ∀ m ∈ a.members, m.2.depth ≤ room :=
        depthOfMembers_le_iff.mp (a.depth_members ▸ Nat.zero_le room)
      have hsplit : splitKind room (.ofJson (Condition.attribute a).toJson)
          = .ok (.attribute, .object (membersOfJson a.members) none) :=
        splitKind_tagged rfl (by simp [Attribute.members]) hdepth
      rw [Condition.decode, hsplit]
      simp [bind, Except.bind, pure, Except.pure, a.decode_members]
  | event e =>
      have hdepth : ∀ m ∈ e.members, m.2.depth ≤ room :=
        depthOfMembers_le_iff.mp (Nat.le_trans e.depth_members_le hroom)
      have hsplit : splitKind room (.ofJson (Condition.event e).toJson)
          = .ok (.event, .object (membersOfJson e.members) none) :=
        splitKind_tagged rfl (by simp [Event.members]) hdepth
      rw [Condition.decode, hsplit]
      simp [bind, Except.bind, pure, Except.pure, e.decode_members]

/-! ## Groups and segments -/

theorem Group.distinct : Group.record.Distinct := by
  unfold Record.Distinct
  decide

theorem Group.decode_toJson (g : Group) : Group.record.decode (.ofJson g.toJson) = .ok g := by
  have hconditions : decodeList (Condition.decode (maxDepth - 5))
      (.ofJson (.array (g.conditions.map (·.toJson)))) = .ok g.conditions :=
    decodeList_self fun c _ => c.decode_toJson (by decide)
  rw [Group.toJson, Reading.ofJson]
  refine Record.decodeWith_members Group.distinct (by simp [Group.record, Field.plain]) (by simp) ?_
  simp [Record.fill, Group.record, bind, Except.bind, pure, Except.pure, hconditions]

theorem Tree.distinct : Tree.record.Distinct := by
  unfold Record.Distinct
  decide

theorem Tree.decode_toJson (t : Tree) : Tree.record.decode (.ofJson t.toJson) = .ok t := by
  have hconditions : decodeList (Condition.decode (maxDepth - 3))
      (.ofJson (.array (t.conditions.map (·.toJson)))) = .ok t.conditions :=
    decodeList_self fun c _ => c.decode_toJson (by decide)
  have hgroups : decodeList Group.record.decode (.ofJson (.array (t.groups.map (·.toJson))))
      = .ok t.groups :=
    decodeList_self fun g _ => g.decode_toJson
  rw [Tree.toJson, Reading.ofJson]
  refine Record.decodeWith_members Tree.distinct (by simp [Tree.record, Field.plain]) (by simp) ?_
  simp [Record.fill, Tree.record, bind, Except.bind, pure, Except.pure, hconditions, hgroups]

/-! ## Texts -/

theorem Attribute.integral_members (a : Attribute) : ∀ m ∈ a.members, Integral m.2 := by
  have hid : a.id.toNat ≤ maxSignificand := Nat.le_of_lt (Nat.lt_trans a.id.toNat_lt (by decide))
  simp only [Attribute.members, List.forall_mem_cons]
  refine ⟨integral_natJson hid, .string _, .string _, .string _, .string _, .string _, .string _,
    .bool _, .bool _, by simp⟩

theorem Event.integral_members (e : Event) : ∀ m ∈ e.members, Integral m.2 := by
  have hid : e.id.toNat ≤ maxSignificand := Nat.le_of_lt (Nat.lt_trans e.id.toNat_lt (by decide))
  have hunit : Integral (optionalText e.unit) := by
    cases e.unit <;> constructor
  have hlength : Integral (optionalInt e.length) := by
    cases e.length with
    | none => exact .null
    | some n => exact integral_int64 n
  simp only [Event.members, List.forall_mem_cons]
  refine ⟨integral_natJson hid, .string _, .string _, .string _, integral_int64 _, hunit, hlength,
    integral_map fun a _ => .object a.integral_members, .string _, by simp⟩

theorem Condition.integral_toJson (c : Condition) : Integral c.toJson := by
  cases c with
  | «attribute» a => exact .object (List.forall_mem_cons.mpr ⟨.string _, a.integral_members⟩)
  | event e => exact .object (List.forall_mem_cons.mpr ⟨.string _, e.integral_members⟩)

theorem Group.integral_toJson (g : Group) : Integral g.toJson := by
  have hid : g.id.toNat ≤ maxSignificand := Nat.le_of_lt (Nat.lt_trans g.id.toNat_lt (by decide))
  refine .object ?_
  simp only [List.forall_mem_cons]
  exact ⟨integral_natJson hid, .string _, integral_map fun c _ => c.integral_toJson, by simp⟩

theorem Tree.integral_toJson (t : Tree) : Integral t.toJson := by
  have hsize : t.size.toNat ≤ maxSignificand := Nat.le_sub_one_of_lt t.size.toNat_lt
  refine .object ?_
  simp only [List.forall_mem_cons]
  exact ⟨integral_natJson hsize, .string _, integral_map fun c _ => c.integral_toJson,
    integral_map fun g _ => g.integral_toJson, by simp⟩

/-- However a segment is laid out, it is read back with its size counted anew. -/
theorem Tree.parse_chars (l : Layout) (t : Tree) :
    Tree.parse (.ofList (l.chars 0 t.toJson)) = .ok t.sized := by
  rw [Tree.parse, decodeText_chars l t.integral_toJson t.decode_toJson]
  rfl

/-- **A kept segment is read back.** From its compact and from its pretty text comes the segment itself,
whatever its texts and numbers are, with a size that is the number of its conditions at the root and in the
groups, in 64 bits, whatever size was kept. -/
theorem Tree.parse_kept (t : Tree) :
    ∃ size : UInt64,
      Tree.parse t.text = .ok { t with size := size } ∧
      Tree.parse t.toJson.pretty = .ok { t with size := size } ∧
      size.toNat = (t.conditions.length + (t.groups.flatMap (·.conditions)).length) % UInt64.size := by
  refine ⟨.ofNat t.count, ?_, ?_, ?_⟩
  · have hread := t.parse_chars .compact
    rwa [Layout.chars_compact] at hread
  · have hread := t.parse_chars .pretty
    rwa [Layout.chars_pretty] at hread
  · rw [Tree.count]
    exact UInt64.toNat_ofNat'

end Stored

end Audience
