import Audience.Proofs.Json.Layout
import Audience.Proofs.Outcome
import Mathlib.Data.List.Induction

set_option autoImplicit false

/-! # Values that were read

A value that was read is the one that was written, with the members of every object sorted by key
(`parse_compact`). Sorting keeps one member for each key. Of keys that are given once it keeps every
member (`filter_sortMembers_perm`), and members that are sorted already stay as they are
(`sortMembers_eq_self`), so to read a value that was read changes nothing (`ofJson_toJson`). -/

namespace Audience.Json

/-! ## Sorting members -/

/-- Members in the order of their keys, one for each key. -/
def Ordered (members : List (String × Json)) : Prop :=
  members.Pairwise fun m n => m.1 < n.1

theorem mem_of_mem_insertMember {key : String} {value : Json} {members : List (String × Json)}
    {m : String × Json} (h : m ∈ insertMember key value members) : m = (key, value) ∨ m ∈ members := by
  induction members with
  | nil => exact Or.inl (List.mem_singleton.mp h)
  | cons n rest ih =>
      obtain ⟨k, v⟩ := n
      unfold insertMember at h
      split at h
      · rcases List.mem_cons.mp h with h | h
        · exact Or.inl h
        · exact Or.inr (List.mem_cons_of_mem _ h)
      · split at h
        · exact List.mem_cons.mp h
        · rcases List.mem_cons.mp h with h | h
          · exact Or.inr (h ▸ List.mem_cons_self)
          · exact (ih h).imp id (List.mem_cons_of_mem _)

theorem Ordered.insertMember {members : List (String × Json)} (h : Ordered members) (key : String)
    (value : Json) : Ordered (insertMember key value members) := by
  induction members with
  | nil => exact List.pairwise_singleton _ _
  | cons n rest ih =>
      obtain ⟨k, v⟩ := n
      obtain ⟨hfirst, hrest⟩ := List.pairwise_cons.mp h
      unfold Json.insertMember
      split
      · next heq =>
        subst heq
        exact List.pairwise_cons.mpr ⟨hfirst, hrest⟩
      · next hne =>
        split
        · next hlt =>
          refine List.pairwise_cons.mpr ⟨?_, h⟩
          intro m hm
          rcases List.mem_cons.mp hm with rfl | hm
          · exact hlt
          · exact String.lt_trans hlt (hfirst m hm)
        · next hnot =>
          have hlt : k < key := by
            rcases Std.lt_trichotomy k key with hlt | heq | hlt
            · exact hlt
            · exact absurd heq.symm hne
            · exact absurd hlt hnot
          refine List.pairwise_cons.mpr ⟨?_, ih hrest⟩
          intro m hm
          rcases mem_of_mem_insertMember hm with rfl | hm
          · exact hlt
          · exact hfirst m hm

/-- A key that comes after all others goes to the end. -/
theorem insertMember_of_forall_lt {key : String} {members : List (String × Json)}
    (h : ∀ m ∈ members, m.1 < key) (value : Json) :
    insertMember key value members = members ++ [(key, value)] := by
  induction members with
  | nil => rfl
  | cons n rest ih =>
      obtain ⟨k, v⟩ := n
      have hlt : k < key := h (k, v) List.mem_cons_self
      have hne : key ≠ k := by
        rintro rfl
        exact String.lt_irrefl key hlt
      rw [insertMember, if_neg hne, if_neg (String.lt_asymm hlt),
        ih fun m hm => h m (List.mem_cons_of_mem _ hm)]
      rfl

theorem insertMember_perm {key : String} {members : List (String × Json)}
    (h : key ∉ members.map Prod.fst) (value : Json) :
    (insertMember key value members).Perm ((key, value) :: members) := by
  induction members with
  | nil => exact .refl _
  | cons n rest ih =>
      obtain ⟨k, v⟩ := n
      simp only [List.map_cons, List.mem_cons, not_or] at h
      rw [insertMember, if_neg h.1]
      split
      · exact .refl _
      · exact ((ih h.2).cons (k, v)).trans (.swap _ _ _)

/-- What is inserted under a key leaves the members of other keys alone. -/
theorem filter_insertMember {p : String → Bool} {key : String} (h : p key = false) (value : Json)
    (members : List (String × Json)) :
    (insertMember key value members).filter (fun m => p m.1) = members.filter (fun m => p m.1) := by
  induction members with
  | nil => simp [insertMember, h]
  | cons n rest ih =>
      obtain ⟨k, v⟩ := n
      unfold insertMember
      split
      · next heq =>
        subst heq
        simp [h]
      · split
        · simp [h]
        · simp only [List.filter_cons, ih]

theorem sortMembers_concat (members : List (String × Json)) (m : String × Json) :
    sortMembers (members ++ [m]) = insertMember m.1 m.2 (sortMembers members) := by
  rw [sortMembers, List.foldl_append]
  rfl

theorem mem_of_mem_sortMembers {members : List (String × Json)} {m : String × Json}
    (h : m ∈ sortMembers members) : m ∈ members := by
  induction members using List.reverseRecOn with
  | nil => exact h
  | append_singleton members n ih =>
      rw [sortMembers_concat] at h
      rcases mem_of_mem_insertMember h with rfl | h
      · exact List.mem_append_right _ (List.mem_singleton_self _)
      · exact List.mem_append_left _ (ih h)

theorem ordered_sortMembers (members : List (String × Json)) : Ordered (sortMembers members) := by
  induction members using List.reverseRecOn with
  | nil => exact List.Pairwise.nil
  | append_singleton members m ih =>
      rw [sortMembers_concat]
      exact ih.insertMember m.1 m.2

theorem sortMembers_eq_self {members : List (String × Json)} (h : Ordered members) :
    sortMembers members = members := by
  induction members using List.reverseRecOn with
  | nil => rfl
  | append_singleton members m ih =>
      obtain ⟨hmembers, -, hlast⟩ := List.pairwise_append.mp h
      have hlt : ∀ n ∈ members, n.1 < m.1 := fun n hn => hlast n hn m (List.mem_singleton_self m)
      rw [sortMembers_concat, ih hmembers, insertMember_of_forall_lt hlt]

/-- Of the keys that are given once, sorting keeps every member. -/
theorem filter_sortMembers_perm {p : String → Bool} {members : List (String × Json)}
    (h : ((members.filter fun m => p m.1).map Prod.fst).Nodup) :
    ((sortMembers members).filter fun m => p m.1).Perm (members.filter fun m => p m.1) := by
  induction members using List.reverseRecOn with
  | nil => exact .refl _
  | append_singleton members m ih =>
      obtain ⟨key, value⟩ := m
      rw [List.filter_append, List.map_append] at h
      obtain ⟨hmembers, -, hdisjoint⟩ := List.nodup_append.mp h
      rw [sortMembers_concat, List.filter_append]
      by_cases hp : p key = true
      · have hkey : key ∉ (sortMembers members).map Prod.fst := by
          intro hmem
          obtain ⟨n, hn, rfl⟩ := List.mem_map.mp hmem
          have hgiven : n.1 ∈ (members.filter fun m => p m.1).map Prod.fst :=
            List.mem_map_of_mem (List.mem_filter.mpr ⟨mem_of_mem_sortMembers hn, hp⟩)
          exact hdisjoint n.1 hgiven n.1 (by simp [hp]) rfl
        have hinsert := (insertMember_perm hkey value).filter fun m => p m.1
        have hlast : [(key, value)].filter (fun m => p m.1) = [(key, value)] := by simp [hp]
        have hfirst : ((key, value) :: sortMembers members).filter (fun m => p m.1)
            = (key, value) :: (sortMembers members).filter fun m => p m.1 := by simp [hp]
        rw [hlast]
        rw [hfirst] at hinsert
        exact hinsert.trans (((ih hmembers).cons _).trans (List.perm_append_singleton _ _).symm)
      · rw [Bool.not_eq_true] at hp
        simpa [filter_insertMember hp, hp] using ih hmembers

theorem mem_of_member? {members : List (String × Json)} {key : String} {v : Json}
    (h : (Json.object members).member? key = some v) : (key, v) ∈ members := by
  obtain ⟨front, back, heq, -⟩ := List.lookup_eq_some_iff.mp h
  rw [heq]
  exact List.mem_append_right front List.mem_cons_self

theorem Ordered.nodup {members : List (String × Json)} (h : Ordered members) :
    (members.map Prod.fst).Nodup := by
  refine List.pairwise_map.mpr (h.imp fun {m n} hlt heq => ?_)
  rw [heq] at hlt
  exact String.lt_irrefl _ hlt

/-- Of members in order, each one is found under its key. -/
theorem Ordered.member?_eq {members : List (String × Json)} (h : Ordered members) {key : String}
    {value : Json} (hmem : (key, value) ∈ members) : (Json.object members).member? key = some value := by
  obtain ⟨front, back, rfl⟩ := List.append_of_mem hmem
  refine List.lookup_eq_some_iff.mpr ⟨front, back, rfl, fun m hm => ?_⟩
  have hlt : m.1 < key := (List.pairwise_append.mp h).2.2 m hm _ List.mem_cons_self
  rw [bne_iff_ne]
  rintro rfl
  exact String.lt_irrefl _ hlt

/-! ## The value of a reading -/

mutual

/-- A value with the members of every object sorted by key, as they are in a value that was read. -/
def sorted : Json → Json
  | .array items => .array (sortedItems items)
  | .object members => .object (sortMembers (sortedMembers members))
  | value => value

/-- Items, each of them sorted within. -/
def sortedItems : List Json → List Json
  | [] => []
  | v :: rest => v.sorted :: sortedItems rest

/-- Members in their order, the value of each of them sorted within. -/
def sortedMembers : List (String × Json) → List (String × Json)
  | [] => []
  | (key, v) :: rest => (key, v.sorted) :: sortedMembers rest

end

theorem sortedMembers_eq_map (members : List (String × Json)) :
    sortedMembers members = members.map fun m => (m.1, m.2.sorted) := by
  induction members with
  | nil => rfl
  | cons m rest ih => rw [sortedMembers, ih, List.map_cons]

theorem sortedItems_eq_map (items : List Json) : sortedItems items = items.map sorted := by
  induction items with
  | nil => rfl
  | cons v rest ih => rw [sortedItems, ih, List.map_cons]

theorem depthOfMembers_le_iff {members : List (String × Json)} {n : Nat} :
    depthOfMembers members ≤ n ↔ ∀ m ∈ members, m.2.depth ≤ n := by
  induction members with
  | nil => simp [depthOfMembers]
  | cons m rest ih => simp only [depthOfMembers, Nat.max_le, ih, List.forall_mem_cons]

theorem depthOfItems_le_iff {items : List Json} {n : Nat} :
    depthOfItems items ≤ n ↔ ∀ v ∈ items, v.depth ≤ n := by
  induction items with
  | nil => simp [depthOfItems]
  | cons v rest ih => simp only [depthOfItems, Nat.max_le, ih, List.forall_mem_cons]

theorem depthOfItems_map_le {α : Type} {toJson : α → Json} {as : List α} {n : Nat}
    (h : ∀ a ∈ as, (toJson a).depth ≤ n) : depthOfItems (as.map toJson) ≤ n := by
  refine depthOfItems_le_iff.mpr fun v hv => ?_
  obtain ⟨a, ha, rfl⟩ := List.mem_map.mp hv
  exact h a ha

mutual

/-- Where there is room for it, the value of a reading made from a value is that value, sorted. -/
theorem toJson_ofJson (room : Nat) :
    ∀ v : Json, v.depth ≤ room → (Reading.ofJson v).toJson room = .ok v.sorted
  | .null, _ | .bool _, _ | .number _, _ | .string _, _ => rfl
  | .array items, h => by
    rw [depth] at h
    obtain ⟨room, rfl⟩ : ∃ n, room = n + 1 := ⟨room - 1, by omega⟩
    rw [Reading.ofJson, Reading.toJson, itemsToJson_ofJson room items (Nat.le_of_succ_le_succ h)]
    rfl
  | .object members, h => by
    rw [depth] at h
    obtain ⟨room, rfl⟩ : ∃ n, room = n + 1 := ⟨room - 1, by omega⟩
    rw [Reading.ofJson, Reading.toJson,
      membersToJson_ofJson room members (Nat.le_of_succ_le_succ h)]
    rfl

theorem itemsToJson_ofJson (room : Nat) : ∀ items : List Json, depthOfItems items ≤ room →
    itemsToJson room (itemsOfJson items) = .ok (sortedItems items)
  | [], _ => rfl
  | v :: rest, h => by
    obtain ⟨hv, hrest⟩ := Nat.max_le.mp h
    rw [itemsOfJson, itemsToJson, toJson_ofJson room v hv, itemsToJson_ofJson room rest hrest]
    rfl

theorem membersToJson_ofJson (room : Nat) :
    ∀ members : List (String × Json), depthOfMembers members ≤ room →
      membersToJson room (membersOfJson members) = .ok (sortedMembers members)
  | [], _ => rfl
  | (key, v) :: rest, h => by
    obtain ⟨hv, hrest⟩ := Nat.max_le.mp h
    rw [membersOfJson, membersToJson, toJson_ofJson room v hv,
      membersToJson_ofJson room rest hrest]
    rfl

end

theorem toJson_array_eq_ok_iff {items : List Reading} {ending : Option Fault} {room : Nat}
    {v : Json} :
    (Reading.array items ending).toJson room = .ok v ↔
      ∃ n, room = n + 1 ∧ ending = none ∧ ∃ vs, itemsToJson n items = .ok vs ∧ .array vs = v := by
  cases room with
  | zero => simp [Reading.toJson]
  | succ n => cases ending <;> simp [Reading.toJson, bind_eq_ok_iff]

theorem toJson_object_eq_ok_iff {members : List (Except Fault String × Reading)}
    {ending : Option Fault} {room : Nat} {v : Json} :
    (Reading.object members ending).toJson room = .ok v ↔
      ∃ n, room = n + 1 ∧ ending = none ∧
        ∃ ms, membersToJson n members = .ok ms ∧ .object (sortMembers ms) = v := by
  cases room with
  | zero => simp [Reading.toJson]
  | succ n => cases ending <;> simp [Reading.toJson, bind_eq_ok_iff]

theorem exists_object_of_isObject {n : Nat} {r : Reading} {v : Json} (hv : r.toJson n = .ok v)
    (hobject : v.isObject = true) : ∃ members, r = .object members none := by
  cases r with
  | object members ending =>
      obtain ⟨-, -, rfl, -⟩ := toJson_object_eq_ok_iff.mp hv
      exact ⟨members, rfl⟩
  | array =>
      obtain ⟨-, -, -, vs, -, rfl⟩ := toJson_array_eq_ok_iff.mp hv
      cases hobject
  | null | bool | number | string =>
      cases hv
      cases hobject
  | unreadable => cases hv

theorem itemsToJson_cons_eq_ok_iff {r : Reading} {rest : List Reading} {room : Nat}
    {vs : List Json} :
    itemsToJson room (r :: rest) = .ok vs ↔
      ∃ v, r.toJson room = .ok v ∧ ∃ ws, itemsToJson room rest = .ok ws ∧ v :: ws = vs := by
  simp only [itemsToJson, bind_eq_ok_iff, pure_eq_ok_iff]

theorem membersToJson_cons_eq_ok_iff {key : Except Fault String} {r : Reading}
    {rest : List (Except Fault String × Reading)} {room : Nat} {ms : List (String × Json)} :
    membersToJson room ((key, r) :: rest) = .ok ms ↔
      ∃ k, key = .ok k ∧ ∃ v, r.toJson room = .ok v ∧
        ∃ ns, membersToJson room rest = .ok ns ∧ (k, v) :: ns = ms := by
  simp only [membersToJson, bind_eq_ok_iff, pure_eq_ok_iff]

mutual

/-- A value that was read fits into the room it was read in, and is sorted already. -/
theorem settled_of_toJson (room : Nat) :
    ∀ (r : Reading) (v : Json), r.toJson room = .ok v → v.depth ≤ room ∧ v.sorted = v
  | .null, _, h | .bool _, _, h | .number _, _, h | .string _, _, h => by
    cases h
    exact ⟨Nat.zero_le _, rfl⟩
  | .unreadable _ _, _, h => by cases h
  | .array items _, _, h => by
    obtain ⟨n, rfl, -, vs, hitems, rfl⟩ := toJson_array_eq_ok_iff.mp h
    obtain ⟨hdepth, hsorted⟩ := settled_of_itemsToJson n items vs hitems
    exact ⟨Nat.succ_le_succ hdepth, by rw [sorted, hsorted]⟩
  | .object members _, _, h => by
    obtain ⟨n, rfl, -, ms, hmembers, rfl⟩ := toJson_object_eq_ok_iff.mp h
    have hsettled := settled_of_membersToJson n members ms hmembers
    have hdepth : depthOfMembers (sortMembers ms) ≤ n :=
      depthOfMembers_le_iff.mpr fun m hm => (hsettled m (mem_of_mem_sortMembers hm)).1
    have hsorted : sortedMembers (sortMembers ms) = sortMembers ms := by
      rw [sortedMembers_eq_map]
      refine (List.map_congr_left fun m hm => ?_).trans (List.map_id _)
      rw [(hsettled m (mem_of_mem_sortMembers hm)).2]
      rfl
    exact ⟨Nat.succ_le_succ hdepth,
      by rw [sorted, hsorted, sortMembers_eq_self (ordered_sortMembers ms)]⟩

theorem settled_of_itemsToJson (room : Nat) :
    ∀ (items : List Reading) (vs : List Json), itemsToJson room items = .ok vs →
      depthOfItems vs ≤ room ∧ sortedItems vs = vs
  | [], _, h => by
    cases h
    exact ⟨Nat.zero_le _, rfl⟩
  | r :: rest, _, h => by
    obtain ⟨v, hv, ws, hws, rfl⟩ := itemsToJson_cons_eq_ok_iff.mp h
    obtain ⟨hdepth, hsorted⟩ := settled_of_toJson room r v hv
    obtain ⟨hdepths, hsorteds⟩ := settled_of_itemsToJson room rest ws hws
    exact ⟨Nat.max_le.mpr ⟨hdepth, hdepths⟩, by rw [sortedItems, hsorted, hsorteds]⟩

theorem settled_of_membersToJson (room : Nat) :
    ∀ (members : List (Except Fault String × Reading)) (ms : List (String × Json)),
      membersToJson room members = .ok ms → ∀ m ∈ ms, m.2.depth ≤ room ∧ m.2.sorted = m.2
  | [], _, h => by
    cases h
    simp
  | (key, r) :: rest, _, h => by
    obtain ⟨k, -, v, hv, ns, hns, rfl⟩ := membersToJson_cons_eq_ok_iff.mp h
    exact List.forall_mem_cons.mpr
      ⟨settled_of_toJson room r v hv, settled_of_membersToJson room rest ns hns⟩

end

mutual

/-- The room that a reading was given does not change its value. -/
theorem toJson_unique (room room' : Nat) :
    ∀ (r : Reading) (v w : Json), r.toJson room = .ok v → r.toJson room' = .ok w → v = w
  | .null, _, _, hv, hw | .bool _, _, _, hv, hw | .number _, _, _, hv, hw
  | .string _, _, _, hv, hw => by
    cases hv
    cases hw
    rfl
  | .unreadable _ _, _, _, hv, _ => by cases hv
  | .array items _, _, _, hv, hw => by
    obtain ⟨n, rfl, -, vs, hvs, rfl⟩ := toJson_array_eq_ok_iff.mp hv
    obtain ⟨m, rfl, -, ws, hws, rfl⟩ := toJson_array_eq_ok_iff.mp hw
    rw [itemsToJson_unique n m items vs ws hvs hws]
  | .object members _, _, _, hv, hw => by
    obtain ⟨n, rfl, -, vs, hvs, rfl⟩ := toJson_object_eq_ok_iff.mp hv
    obtain ⟨m, rfl, -, ws, hws, rfl⟩ := toJson_object_eq_ok_iff.mp hw
    rw [membersToJson_unique n m members vs ws hvs hws]

theorem itemsToJson_unique (room room' : Nat) :
    ∀ (items : List Reading) (vs ws : List Json), itemsToJson room items = .ok vs →
      itemsToJson room' items = .ok ws → vs = ws
  | [], _, _, hv, hw => by
    cases hv
    cases hw
    rfl
  | r :: rest, _, _, hv, hw => by
    obtain ⟨v, hfirst, vs, hvs, rfl⟩ := itemsToJson_cons_eq_ok_iff.mp hv
    obtain ⟨w, hfirst', ws, hws, rfl⟩ := itemsToJson_cons_eq_ok_iff.mp hw
    rw [toJson_unique room room' r v w hfirst hfirst', itemsToJson_unique room room' rest vs ws hvs hws]

theorem membersToJson_unique (room room' : Nat) :
    ∀ (members : List (Except Fault String × Reading)) (vs ws : List (String × Json)),
      membersToJson room members = .ok vs → membersToJson room' members = .ok ws → vs = ws
  | [], _, _, hv, hw => by
    cases hv
    cases hw
    rfl
  | (key, r) :: rest, _, _, hv, hw => by
    obtain ⟨k, rfl, v, hfirst, vs, hvs, rfl⟩ := membersToJson_cons_eq_ok_iff.mp hv
    obtain ⟨l, hl, w, hfirst', ws, hws, rfl⟩ := membersToJson_cons_eq_ok_iff.mp hw
    obtain rfl := Except.ok.inj hl
    rw [toJson_unique room room' r v w hfirst hfirst', membersToJson_unique room room' rest vs ws hvs hws]

end

/-- To read a value that was read changes nothing, in any room that is deep enough. -/
theorem ofJson_toJson {r : Reading} {room room' : Nat} {v : Json} (h : r.toJson room = .ok v)
    (hroom : v.depth ≤ room') : (Reading.ofJson v).toJson room' = .ok v := by
  obtain ⟨-, hsorted⟩ := settled_of_toJson room r v h
  rw [toJson_ofJson room' v hroom, hsorted]

theorem parse_eq_ok_iff {text : String} {v : Json} :
    Json.parse text = .ok v ↔
      (readDocument text).ending = none ∧ (readDocument text).root.toJson maxDepth = .ok v := by
  simp only [Json.parse, bind_eq_ok_iff]
  cases (readDocument text).ending <;> simp

/-- What was written is read as it was, but for the order of members. -/
theorem parse_compact {v : Json} (h : Integral v) (hdepth : v.depth ≤ maxDepth) :
    parse v.compact = .ok v.sorted := by
  simp only [parse, readDocument_compact h, toJson_ofJson maxDepth v hdepth]
  rfl

end Audience.Json
