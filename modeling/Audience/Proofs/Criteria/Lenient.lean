import Audience.Proofs.Criteria.Draft
import Audience.Proofs.Json.Scalar

set_option autoImplicit false

/-! # Lenient reading of what can be read strictly

The lenient reader leaves out what makes no sense to it. Where the strict reader finds sense in all of a
text, nothing is left out, and both read the same criteria (`Tree.ofText_of_parse`): conditions, groups and
operators, under either of their names. -/

namespace Audience.Criteria

open Json

/-! ## Conditions -/

/-- A condition that is read strictly is not left out. -/
theorem Condition.ofJson?_of_decode {room n : Nat} {r : Reading} {v : Json} {c : Condition}
    (hv : r.toJson n = .ok v) (hread : Condition.decode room r = .ok c) :
    Condition.ofJson? v = some c := by
  obtain ⟨d, hd, hclass⟩ := bind_eq_ok_iff.mp hread
  rw [Condition.ofJson?, Draft.ofJson?_of_decode hv hd, Option.bind_some]
  cases h : d.classify with
  | ok c' =>
      rw [h] at hclass
      cases hclass
      rfl
  | error e =>
      rw [h] at hclass
      cases hclass

theorem conditionsOf_of_decode {room n : Nat} {r : Reading} {v : Json} {cs : List Condition}
    (hv : r.toJson n = .ok v) (hread : decodeList (Condition.decode room) r = .ok cs) :
    conditionsOf (some v) = cs := by
  obtain ⟨items, rfl, hitems⟩ := exists_array_of_decodeList hread
  obtain ⟨n, rfl, -, vs, hvs, rfl⟩ := toJson_array_eq_ok_iff.mp hv
  exact filterMap_eq_of_decodeItems hvs hitems fun v _ r c hv hc => Condition.ofJson?_of_decode hv hc

theorem logicOf_of_decode {n : Nat} {r : Reading} {v : Json} {l : Logic}
    (hv : r.toJson n = .ok v) (hread : Logic.decode r = .ok l) : logicOf (some v) = l := by
  obtain ⟨s, hs, hl⟩ := bind_eq_ok_iff.mp hread
  obtain rfl := pure_eq_ok_iff.mp hl
  cases r with
  | string =>
      obtain rfl := Except.ok.inj hs
      obtain rfl := Except.ok.inj hv
      simp only [logicOf, Option.bind_some, Json.string?, Option.map_some, Option.getD_some]
  | unreadable => cases hv
  | null | bool | number | array | object => cases hs

/-! ## Groups -/

theorem Group.distinct : Group.record.Distinct := by
  unfold Record.Distinct
  decide

/-- A field of a group gives it its operator or its conditions. -/
theorem Group.add_cases {f : Field} (hf : f ∈ Group.record.fields) {g g' : Group} {r : Reading}
    (h : Group.record.add g f.name r = .ok g') :
    (f = .plain "operator" ∧ ∃ l, Logic.decode r = .ok l ∧ g' = { g with logic := l }) ∨
    (f = .plain "conditions" ∧ ∃ cs, decodeList (Condition.decode (maxDepth - 5)) r = .ok cs ∧
      g' = { g with conditions := cs }) := by
  have hfields : f = .plain "operator" ∨ f = .plain "conditions" := by
    simpa [Group.record] using hf
  rcases hfields with rfl | rfl
  · obtain ⟨l, hl, hg⟩ := bind_eq_ok_iff.mp h
    exact .inl ⟨rfl, l, hl, (pure_eq_ok_iff.mp hg).symm⟩
  · obtain ⟨cs, hcs, hg⟩ := bind_eq_ok_iff.mp h
    exact .inr ⟨rfl, cs, hcs, (pure_eq_ok_iff.mp hg).symm⟩

theorem Group.holds_logic : Group.record.Holds (.plain "operator") Group.logic Logic.decode where
  mem := List.mem_cons_self
  set g r g' h := by
    rcases Group.add_cases List.mem_cons_self h with ⟨-, l, hl, rfl⟩ | ⟨hf, -⟩
    · exact hl
    · exact absurd hf (by simp [Field.plain])
  frame f hf hne g r g' h := by
    rcases Group.add_cases hf h with ⟨rfl, -⟩ | ⟨-, cs, -, rfl⟩
    · exact absurd rfl hne
    · rfl

theorem Group.holds_conditions : Group.record.Holds (.plain "conditions") Group.conditions
    (decodeList (Condition.decode (maxDepth - 5))) where
  mem := List.mem_cons_of_mem _ List.mem_cons_self
  set g r g' h := by
    rcases Group.add_cases (List.mem_cons_of_mem _ List.mem_cons_self) h with
      ⟨hf, -⟩ | ⟨-, cs, hcs, rfl⟩
    · exact absurd hf (by simp [Field.plain])
    · exact hcs
  frame f hf hne g r g' h := by
    rcases Group.add_cases hf h with ⟨-, l, -, rfl⟩ | ⟨rfl, -⟩
    · rfl
    · exact absurd rfl hne

/-- A group that is an object and is read strictly is not left out. -/
theorem Group.ofJson?_of_decode {n : Nat} {r : Reading} {v : Json} {g : Group}
    (hv : r.toJson n = .ok v) (hobject : v.isObject = true)
    (hread : Group.record.decode r = .ok g) : Group.ofJson? v = some g := by
  obtain ⟨members, rfl⟩ := exists_object_of_isObject hv hobject
  have hlogic : logicOf (Field.member? (.plain "operator") v) = g.logic :=
    Group.holds_logic.ofMember_eq Group.distinct hv hread rfl fun w _ r n l => logicOf_of_decode
  have hconditions : conditionsOf (Field.member? (.plain "conditions") v) = g.conditions :=
    Group.holds_conditions.ofMember_eq Group.distinct hv hread rfl
      fun w _ r n cs => conditionsOf_of_decode
  rw [Field.member?_plain] at hlogic hconditions
  rw [Group.ofJson?, if_pos hobject, hlogic, hconditions]

/-! ## Trees -/

/-- The groups of a tree, under either of two names. -/
def Tree.groupsField : Field :=
  ⟨"condition_groups", ["conditionGroups"], true⟩

/-- The operator of a tree, under either of two names. -/
def Tree.logicField : Field :=
  ⟨"logic_operator", ["rootOperator"], true⟩

theorem Tree.distinct : Tree.record.Distinct := by
  unfold Record.Distinct
  decide

theorem Tree.mem_fields_iff {f : Field} :
    f ∈ Tree.record.fields ↔ f = .plain "conditions" ∨ f = Tree.groupsField ∨ f = Tree.logicField := by
  simp [Tree.record, Tree.groupsField, Tree.logicField]

/-- A field of a tree gives it its conditions, its groups or its operator. -/
theorem Tree.add_cases {f : Field} (hf : f ∈ Tree.record.fields) {t t' : Tree} {r : Reading}
    (h : Tree.record.add t f.name r = .ok t') :
    (f = .plain "conditions" ∧ ∃ cs, decodeList (Condition.decode (maxDepth - 3)) r = .ok cs ∧
      t' = { t with conditions := cs }) ∨
    (f = Tree.groupsField ∧ ∃ gs, decodeList Group.record.decode r = .ok gs ∧
      t' = { t with groups := gs }) ∨
    (f = Tree.logicField ∧ ∃ l, Logic.decode r = .ok l ∧ t' = { t with logic := l }) := by
  rcases Tree.mem_fields_iff.mp hf with rfl | rfl | rfl
  · obtain ⟨cs, hcs, ht⟩ := bind_eq_ok_iff.mp h
    exact .inl ⟨rfl, cs, hcs, (pure_eq_ok_iff.mp ht).symm⟩
  · obtain ⟨gs, hgs, ht⟩ := bind_eq_ok_iff.mp h
    exact .inr (.inl ⟨rfl, gs, hgs, (pure_eq_ok_iff.mp ht).symm⟩)
  · obtain ⟨l, hl, ht⟩ := bind_eq_ok_iff.mp h
    exact .inr (.inr ⟨rfl, l, hl, (pure_eq_ok_iff.mp ht).symm⟩)

theorem Tree.holds_conditions : Tree.record.Holds (.plain "conditions") Tree.conditions
    (decodeList (Condition.decode (maxDepth - 3))) where
  mem := Tree.mem_fields_iff.mpr (.inl rfl)
  set t r t' h := by
    rcases Tree.add_cases (Tree.mem_fields_iff.mpr (.inl rfl)) h with
      ⟨-, cs, hcs, rfl⟩ | ⟨hf, -⟩ | ⟨hf, -⟩
    · exact hcs
    · exact absurd hf (by simp [Field.plain, Tree.groupsField])
    · exact absurd hf (by simp [Field.plain, Tree.logicField])
  frame f hf hne t r t' h := by
    rcases Tree.add_cases hf h with ⟨rfl, -⟩ | ⟨-, gs, -, rfl⟩ | ⟨-, l, -, rfl⟩
    · exact absurd rfl hne
    · rfl
    · rfl

theorem Tree.holds_groups : Tree.record.Holds Tree.groupsField Tree.groups
    (decodeList Group.record.decode) where
  mem := Tree.mem_fields_iff.mpr (.inr (.inl rfl))
  set t r t' h := by
    rcases Tree.add_cases (Tree.mem_fields_iff.mpr (.inr (.inl rfl))) h with
      ⟨hf, -⟩ | ⟨-, gs, hgs, rfl⟩ | ⟨hf, -⟩
    · exact absurd hf (by simp [Field.plain, Tree.groupsField])
    · exact hgs
    · exact absurd hf (by simp [Tree.groupsField, Tree.logicField])
  frame f hf hne t r t' h := by
    rcases Tree.add_cases hf h with ⟨-, cs, -, rfl⟩ | ⟨rfl, -⟩ | ⟨-, l, -, rfl⟩
    · rfl
    · exact absurd rfl hne
    · rfl

theorem Tree.holds_logic : Tree.record.Holds Tree.logicField Tree.logic Logic.decode where
  mem := Tree.mem_fields_iff.mpr (.inr (.inr rfl))
  set t r t' h := by
    rcases Tree.add_cases (Tree.mem_fields_iff.mpr (.inr (.inr rfl))) h with
      ⟨hf, -⟩ | ⟨hf, -⟩ | ⟨-, l, hl, rfl⟩
    · exact absurd hf (by simp [Field.plain, Tree.logicField])
    · exact absurd hf (by simp [Tree.groupsField, Tree.logicField])
    · exact hl
  frame f hf hne t r t' h := by
    rcases Tree.add_cases hf h with ⟨-, cs, -, rfl⟩ | ⟨-, gs, -, rfl⟩ | ⟨rfl, -⟩
    · rfl
    · rfl
    · exact absurd rfl hne

/-- The groups that a value holds are objects, under either of the names they may have. -/
def GroupsAreObjects (v : Json) : Prop :=
  ∀ key ∈ ["condition_groups", "conditionGroups"], ∀ items, v.member? key = some (.array items) →
    ∀ g ∈ items, g.isObject = true

/-- Criteria that could be read from a text are made of its value as well. -/
theorem Tree.ofJson_of_decode {n : Nat} {r : Reading} {v : Json} {t : Tree}
    (hv : r.toJson n = .ok v) (hobject : v.isObject = true) (hgroupsOf : GroupsAreObjects v)
    (hread : Tree.record.decode r = .ok t) : Tree.ofJson v = t := by
  obtain ⟨members, rfl⟩ := exists_object_of_isObject hv hobject
  have hconditions : conditionsOf (Field.member? (.plain "conditions") v) = t.conditions :=
    Tree.holds_conditions.ofMember_eq Tree.distinct hv hread rfl
      fun w _ r n cs => conditionsOf_of_decode
  have hlogic : logicOf (Tree.logicField.member? v) = t.logic :=
    Tree.holds_logic.ofMember_eq Tree.distinct hv hread rfl fun w _ r n l => logicOf_of_decode
  have hgroups : (((Tree.groupsField.member? v).bind Json.items?).getD []).filterMap Group.ofJson?
      = t.groups := by
    rcases Tree.holds_groups.cases Tree.distinct hv hread with
      ⟨hmember, hstart⟩ | ⟨w, r, n, hmember, hw, hdecode⟩
    · rw [hmember, hstart]
      rfl
    · -- Under whichever name the groups were found, all of them are objects.
      obtain ⟨items, rfl, hitems⟩ := exists_array_of_decodeList hdecode
      obtain ⟨n, rfl, -, ws, hws, rfl⟩ := toJson_array_eq_ok_iff.mp hw
      obtain ⟨key, hkey, hlookup⟩ := List.exists_of_findSome?_eq_some hmember
      rw [hmember]
      exact filterMap_eq_of_decodeItems hws hitems fun g hg r _ hr =>
        Group.ofJson?_of_decode hr (hgroupsOf key hkey ws hlookup g hg)
  rw [Field.member?_plain] at hconditions
  rw [Tree.logicField, Field.member?_aliased] at hlogic
  rw [Tree.groupsField, Field.member?_aliased] at hgroups
  rw [Tree.ofJson, hconditions, hgroups, hlogic]

/-- **The lenient reader extends the strict one.** In a text that is an object with objects for its groups,
what the strict reader makes sense of, the lenient reader reads as the same criteria: no condition, group or
operator is left out or replaced by a default. -/
theorem Tree.ofText_of_parse {text : String} {v : Json} {t : Tree} (hv : Json.parse text = .ok v)
    (hobject : v.isObject = true) (hgroups : GroupsAreObjects v)
    (hstrict : Tree.parse text = .ok t) : Tree.ofText text = t := by
  obtain ⟨-, hroot⟩ := parse_eq_ok_iff.mp hv
  obtain ⟨-, hdecode⟩ := decodeText_eq_ok_iff.mp hstrict
  rw [Tree.ofText, hv]
  exact Tree.ofJson_of_decode hroot hobject hgroups hdecode

/-- An event that does not say its kind and whose frequency is a count, in a group and with an operator that
are given under the second of their names. -/
def repeatedVisits : Json :=
  .object [("conditionGroups", .array [.object [("conditions",
    .array [.object [("event_name", .string "visit"), ("frequency", .ofInt 2)]])]]),
    ("rootOperator", .string "or")]

theorem Tree.ofText_of_parse_repeatedVisits :
    Tree.ofText repeatedVisits.compact =
      ⟨[], [⟨.and, [.event ⟨"visit", none, none, .null, some ⟨"at_least", 2⟩, none, []⟩]⟩], .or⟩ := by
  have hevent : Integral (.object [("event_name", .string "visit"), ("frequency", .ofInt 2)]) :=
    .object (List.forall_mem_cons.mpr ⟨.string _,
      List.forall_mem_singleton.mpr (integral_ofInt (by decide) (by decide))⟩)
  have hgroup : Integral (.object [("conditions",
      .array [.object [("event_name", .string "visit"), ("frequency", .ofInt 2)]])]) :=
    .object (List.forall_mem_singleton.mpr (.array (List.forall_mem_singleton.mpr hevent)))
  have hvisits : Integral repeatedVisits :=
    .object (List.forall_mem_cons.mpr ⟨.array (List.forall_mem_singleton.mpr hgroup),
      List.forall_mem_singleton.mpr (.string _)⟩)
  have hobjects : GroupsAreObjects repeatedVisits.sorted := by
    intro key hkey items hitems g hg
    rcases List.mem_pair.mp hkey with rfl | rfl
    · cases hitems
    · cases hitems
      rw [List.mem_singleton.mp hg]
      rfl
  exact Tree.ofText_of_parse (parse_compact hvisits (by decide)) rfl hobjects
    (decodeText_compact hvisits rfl)

end Audience.Criteria
