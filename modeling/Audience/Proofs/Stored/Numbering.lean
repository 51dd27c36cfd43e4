import Audience.Proofs.Stored.Columns
import Mathlib.Algebra.Group.Action.Defs
import Mathlib.Algebra.Order.BigOperators.Group.List
import Mathlib.Algebra.Order.Ring.Nat

set_option autoImplicit false

/-! # Places and numbers

Storing criteria leaves nothing out and moves nothing: `Stored.Tree.Keeps` says of a tree and a segment
that they have the same conditions in the same places, that the numbers of every list count up from one,
and that the size counts all conditions. Three counters go over a tree, and each starts anew with its list:
one for the root and the members of each group, one for the groups, one for the conditions of each event.
What the numbers of a list are is said once, for any items (`counted_numbered`).

Numbers have 32 bits, so they only count up as long as no list is longer (`Criteria.Tree.Numberable`). -/

namespace Audience

namespace Criteria

/-- No list of a tree is too long for its numbers. The condition on the amount of an event, which stands in
front of its other conditions, has a number too. -/
structure Tree.Numberable (t : Tree) : Prop where
  conditions : t.conditions.length < 2 ^ 32
  groups : t.groups.length < 2 ^ 32
  members : ∀ g ∈ t.groups, g.conditions.length < 2 ^ 32
  nested : ∀ e, .event e ∈ t.conditions ++ t.groups.flatMap (·.conditions) →
    (Stored.eventAttributes e).length < 2 ^ 32

end Criteria

namespace Stored

/-! ## Numbered lists -/

/-- Numbers count up from one. -/
def Counted (numbers : List UInt32) : Prop :=
  numbers.map (·.toNat) = List.range' 1 numbers.length

section Numbered

variable {α β : Type} {f : UInt32 → α → β} {xs : List α}

/-- The numbers of a list, which start anew after `2 ^ 32` items. -/
theorem map_numbered_number {number : β → UInt32} (hnumber : ∀ n x, number (f n x) = n) :
    (numbered f xs).map number = (List.range' 1 xs.length).map UInt32.ofNat := by
  rw [← List.zipIdx_map_snd 1 xs, numbered, List.map_map, List.map_map]
  exact List.map_congr_left fun p _ => hnumber _ _

/-- The numbers of a list that is not too long count up from one. -/
theorem counted_numbered {number : β → UInt32} (hnumber : ∀ n x, number (f n x) = n)
    (h : xs.length < 2 ^ 32) : Counted ((numbered f xs).map number) := by
  have hnat : ∀ n ∈ List.range' 1 xs.length, (UInt32.ofNat n).toNat = n := by
    intro n hn
    have hle := (List.mem_range'_1.1 hn).2
    exact UInt32.toNat_ofNat_of_lt' (by simp only [UInt32.size]; omega)
  rw [Counted, List.length_map, length_numbered, map_numbered_number hnumber, List.map_map]
  calc (List.range' 1 xs.length).map (UInt32.toNat ∘ UInt32.ofNat)
      = (List.range' 1 xs.length).map id := List.map_congr_left hnat
    _ = List.range' 1 xs.length := List.map_id _

end Numbered

/-! ## Conditions in their places -/

/-- A condition on a column is stored with the texts that it was given, and with those of its values. -/
structure Attribute.Keeps (a : Criteria.Attribute) (s : Attribute) : Prop where
  dataset : ∀ dataset, a.dataset = some dataset → s.dataset = dataset
  column : ∀ field, a.field = some field → s.column = field
  operator : ∀ operator, a.operator = some operator → s.operator = operator
  value : s.value = a.value.display
  value2 : s.value2 = a.value2.display

/-- A condition on a column compares the amount of transactions with a value. -/
structure Attribute.ComparesAmount (operator : String) (value : Scalar) (s : Attribute) : Prop where
  dataset : s.dataset = "transactions"
  column : s.column = "total_amount"
  operator : s.operator = operator
  value : s.value = value.display
  value2 : s.value2 = ""

/-- An event is stored with all its conditions in order. In front of them stands the comparison of its
amount, if the event has an operator and a value that is not blank. -/
inductive Event.KeepsAttributes (e : Criteria.Event) : List Attribute → Prop
  | compared {operator : String} {first : Attribute} {rest : List Attribute}
      (hoperator : e.operator = some operator) (hvalue : e.value.isBlank = false)
      (hfirst : first.ComparesAmount operator e.value)
      (hrest : List.Forall₂ Attribute.Keeps e.attributes rest) : KeepsAttributes e (first :: rest)
  | plain {all : List Attribute} (hnone : e.operator = none ∨ e.value.isBlank = true)
      (hall : List.Forall₂ Attribute.Keeps e.attributes all) : KeepsAttributes e all

/-- An event is stored with what was given, and its conditions are numbered on their own. -/
structure Event.Keeps (e : Criteria.Event) (s : Event) : Prop where
  name : s.name = e.name
  type : ∀ type, e.type = some type → s.type = type
  frequency : ∀ f, e.frequency = some f → s.qualifier = f.qualifier ∧ s.count = f.count
  period : s.unit = e.period.map (·.unit) ∧ s.length = e.period.map (·.length)
  attributes : KeepsAttributes e s.attributes
  numbers : Counted (s.attributes.map (·.id))

/-- A condition is stored as one of its kind. -/
inductive Condition.Keeps : Criteria.Condition → Condition → Prop
  | attribute {a : Criteria.Attribute} {s : Attribute} (h : s.Keeps a) :
      Keeps (.attribute a) (.attribute s)
  | event {e : Criteria.Event} {s : Event} (h : s.Keeps e) : Keeps (.event e) (.event s)

/-- A group is stored with its operator and its members, which are numbered on their own. -/
structure Group.Keeps (g : Criteria.Group) (s : Group) : Prop where
  logic : s.logic = g.logic
  conditions : List.Forall₂ Condition.Keeps g.conditions s.conditions
  numbers : Counted (s.conditions.map (·.id))

/-- A tree is stored with its operator, its conditions and its groups, each list numbered on its own, and
with the number of all conditions at the root and in the groups. -/
structure Tree.Keeps (t : Criteria.Tree) (s : Tree) : Prop where
  logic : s.logic = t.logic
  conditions : List.Forall₂ Condition.Keeps t.conditions s.conditions
  numbers : Counted (s.conditions.map (·.id))
  groups : List.Forall₂ Group.Keeps t.groups s.groups
  groupNumbers : Counted (s.groups.map (·.id))
  size : s.size.toNat = t.conditions.length + (t.groups.map (·.conditions.length)).sum

/-! ## What storing keeps -/

theorem Attribute.keeps (logic : Logic) (fallback : String) (n : UInt32) (a : Criteria.Attribute) :
    (ofCriteria logic fallback n a).Keeps a where
  dataset dataset h := by simp only [ofCriteria, datasetOf, h, Option.getD_some]
  column field h := by simp only [ofCriteria, h, Option.getD_some]
  operator operator h := by simp only [ofCriteria, h, Option.getD_some]
  value := rfl
  value2 := rfl

/-- The conditions of an event on columns, with the one on its amount in front if there is one. -/
theorem Event.keepsAttributes (e : Criteria.Event) :
    KeepsAttributes e
      (numbered (Attribute.ofCriteria .and Dataset.transactions.name) (eventAttributes e)) := by
  have hkeeps : List.Forall₂ Attribute.Keeps (eventAttributes e)
      (numbered (Attribute.ofCriteria .and Dataset.transactions.name) (eventAttributes e)) :=
    forall₂_numbered fun a _ n => Attribute.keeps .and Dataset.transactions.name n a
  unfold eventAttributes Criteria.Event.comparesAmount at hkeeps ⊢
  cases hoperator : e.operator with
  | none => exact .plain (Or.inl hoperator) (by simpa [hoperator] using hkeeps)
  | some operator =>
      cases hvalue : e.value.isBlank with
      | true => exact .plain (Or.inr hvalue) (by simpa [hoperator, hvalue] using hkeeps)
      | false =>
          simp only [hoperator, hvalue, Option.isSome_some, Bool.not_false, Bool.and_self, if_true]
            at hkeeps ⊢
          obtain ⟨hfirst, hrest⟩ := List.forall₂_cons.1 hkeeps
          refine .compared hoperator hvalue ?_ hrest
          exact ⟨hfirst.dataset _ rfl, hfirst.column _ rfl, hfirst.operator _ rfl, hfirst.value,
            hfirst.value2⟩

theorem Event.keeps (logic : Logic) (n : UInt32) {e : Criteria.Event}
    (h : (eventAttributes e).length < 2 ^ 32) : (ofCriteria logic n e).Keeps e where
  name := rfl
  type type h := by simp only [ofCriteria, h, Option.getD_some]
  frequency f h := by simp only [ofCriteria, h, Option.map_some, Option.getD_some, and_self]
  period := ⟨rfl, rfl⟩
  attributes := keepsAttributes e
  numbers := counted_numbered (fun _ _ => rfl) h

theorem Condition.keeps (logic : Logic) (n : UInt32) {c : Criteria.Condition}
    (h : ∀ e, c = .event e → (eventAttributes e).length < 2 ^ 32) :
    (ofCriteria logic n c).Keeps c := by
  match c with
  | .attribute a => exact .attribute (Attribute.keeps logic "" n a)
  | .event e => exact .event (Event.keeps logic n (h e rfl))

theorem Condition.id_ofCriteria (logic : Logic) (n : UInt32) (c : Criteria.Condition) :
    (ofCriteria logic n c).id = n := by
  cases c <;> rfl

theorem Group.keeps (logic : Logic) (n : UInt32) {g : Criteria.Group}
    (hmembers : g.conditions.length < 2 ^ 32)
    (hnested : ∀ e, .event e ∈ g.conditions → (eventAttributes e).length < 2 ^ 32) :
    (ofCriteria logic n g).Keeps g where
  logic := rfl
  conditions := forall₂_numbered fun _ hc n =>
    Condition.keeps logic n fun e he => hnested e (he ▸ hc)
  numbers := counted_numbered (Condition.id_ofCriteria logic) hmembers

/-- As many lists as have numbers, of as many conditions as have numbers each, have a size. -/
theorem sum_lt_size {root : Nat} {members : List Nat} (hroot : root < 2 ^ 32)
    (hlength : members.length < 2 ^ 32) (hmembers : ∀ m ∈ members, m < 2 ^ 32) :
    root + members.sum < UInt64.size := by
  have hsum : members.sum ≤ members.length • (2 ^ 32 - 1) :=
    members.sum_le_card_nsmul _ fun m hm => by
      have hlt := hmembers m hm
      omega
  rw [smul_eq_mul] at hsum
  simp only [UInt64.size]
  omega

theorem Tree.size_ofCriteria {t : Criteria.Tree} (h : t.Numberable) :
    (ofCriteria t).size.toNat = t.conditions.length + (t.groups.map (·.conditions.length)).sum := by
  have hgroups : (numbered (Group.ofCriteria t.logic) t.groups).map (·.conditions.length)
      = t.groups.map (·.conditions.length) :=
    map_numbered (f := Group.ofCriteria t.logic) (fun _ g => length_numbered g.conditions) t.groups
  have hlt : t.conditions.length + (t.groups.map (·.conditions.length)).sum < UInt64.size := by
    refine sum_lt_size h.conditions ?_ ?_
    · rw [List.length_map]
      exact h.groups
    · exact List.forall_mem_map.2 h.members
  have hcount : (ofCriteria t).size
      = .ofNat (t.conditions.length + (t.groups.map (·.conditions.length)).sum) := by
    simp only [ofCriteria, sized, count, length_numbered, List.length_flatMap, hgroups]
  rw [hcount, UInt64.toNat_ofNat_of_lt' hlt]

/-- **Every condition stays in its place.** A tree none of whose lists is too long for its numbers is stored
with the same conditions and groups in the same places: every condition as one of its kind with the texts
it was given, every event with the comparison of its amount, if it makes one, in front of its other
conditions. Conditions at the root, groups, the members of each group and the conditions of each event are
numbered from one, and the size is the number of conditions at the root and in the groups. -/
theorem Tree.kept_in_place (t : Criteria.Tree) (h : t.Numberable) : (ofCriteria t).Keeps t where
  logic := rfl
  conditions := forall₂_numbered fun _ hc n =>
    Condition.keeps t.logic n fun e he => h.nested e (List.mem_append_left _ (he ▸ hc))
  numbers := counted_numbered (Condition.id_ofCriteria t.logic) h.conditions
  groups := forall₂_numbered fun g hg n =>
    Group.keeps t.logic n (h.members g hg) fun e he =>
      h.nested e (List.mem_append_right _ (List.mem_flatMap.2 ⟨g, hg, he⟩))
  groupNumbers := counted_numbered (fun _ _ => rfl) h.groups
  size := size_ofCriteria h

/-- Women who once paid more than 100 in cash, and who live in one of two cities. -/
def cashInTwoCities : Criteria.Tree :=
  ⟨[.attribute ⟨none, some "gender", some "equals", .text "F", .null⟩,
      .event ⟨"purchase", none, some "greater_than", .int 100, none, none,
        [⟨none, some "payment_method", none, .text "Cash", .null⟩]⟩],
    [⟨.and, []⟩,
      ⟨.or, [.attribute ⟨some "stores", some "city", none, .text "Hue", .null⟩,
        .attribute ⟨some "", some "city", none, .text "Ha Noi", .null⟩]⟩],
    .and⟩

/-- Every list of the tree is numbered from one, the conditions of the event and the groups too. -/
theorem Tree.kept_in_place_cashInTwoCities :
    cashInTwoCities.Numberable ∧ (ofCriteria cashInTwoCities).Keeps cashInTwoCities ∧
    (ofCriteria cashInTwoCities).attributes.map (fun a => (a.id, a.dataset, a.column, a.value))
      = [(1, "customers", "gender", "F"), (1, "transactions", "total_amount", "100"),
        (2, "transactions", "payment_method", "Cash"), (1, "stores", "city", "Hue"),
        (2, "", "city", "Ha Noi")] ∧
    (ofCriteria cashInTwoCities).groups.map (·.id) = [1, 2] ∧
    (ofCriteria cashInTwoCities).size = 4 := by
  have hnumberable : cashInTwoCities.Numberable := by
    refine ⟨by decide, by decide, by decide, fun e he => ?_⟩
    simp only [cashInTwoCities, List.flatMap_cons, List.flatMap_nil, List.append_nil, List.nil_append,
      List.cons_append, List.mem_cons, List.not_mem_nil, or_false, reduceCtorEq, false_or,
      Criteria.Condition.event.injEq] at he
    subst he
    decide
  exact ⟨hnumberable, Tree.kept_in_place _ hnumberable, by decide +kernel, by decide +kernel,
    by decide +kernel⟩

end Stored

end Audience
