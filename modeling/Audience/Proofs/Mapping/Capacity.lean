import Audience.Proofs.Mapping.Cache
import Mathlib.Algebra.BigOperators.Fin
import Mathlib.Algebra.Order.BigOperators.Group.Finset
import Mathlib.Data.Set.Card

set_option autoImplicit false

/-! # How many entries a cache holds

A capacity is divided among the shards of a cache, and every shard holds at least one entry. So a cache
holds no more than its capacity, or than it has shards where these are more. What decides is how many of
the shards have keys at all (`Cache.usedShards`): they take one entry each at the least, whatever the
capacity, and no more than the capacity together when there are no more of them than that
(`Cache.size_le_capacity_iff`). Both bounds come from the same sum over the shards
(`Cache.size_eq_sum`); what every operation keeps is said for one shard (`Cache.Bounded`). -/

namespace Audience.Mapping

/-! ## Shards -/

namespace Shard

/-- A look-up moves an entry and does not add one. -/
theorem length_get_le (key : CacheKey) (s : Shard) : (get key s).2.length ≤ s.length := by
  unfold get
  split
  · next value hfound =>
      -- The entry that moves to the front is among those that are taken out.
      have hout : (without key s).length < s.length :=
        List.length_filter_lt_length_iff_exists.2 ⟨_, mem_of_lookup hfound, by simp⟩
      exact hout
  · exact le_rfl

theorem length_put_le (bound : Nat) (key : CacheKey) (value : String) (s : Shard) :
    (put bound key value s).length ≤ bound :=
  List.length_take_le _ _

theorem put_ne_nil {bound : Nat} (h : 0 < bound) (key : CacheKey) (value : String) (s : Shard) :
    put bound key value s ≠ [] := by
  simp only [put, ne_eq, List.take_eq_nil_iff, reduceCtorEq, or_false]
  exact Nat.ne_of_gt h

end Shard

namespace Cache

/-! ## Operations -/

/-- What may be asked of a cache. -/
inductive Operation where
  | get (key : CacheKey)
  | put (key : CacheKey) (value : String)
  | clear

/-- The cache after an operation. -/
def perform (c : Cache) : Operation → Cache
  | .get key => (c.get key).2
  | .put key value => c.put key value
  | .clear => c.clear

/-- The cache after operations in order. -/
def performAll (c : Cache) (ops : List Operation) : Cache :=
  ops.foldl perform c

/-- An empty cache that assigns keys to its shards in a given way, where `new` spreads them. -/
def newPlacing (place : CacheKey → Nat) (shards capacity : Nat) : Cache :=
  { new shards capacity with place := place }

/-- The shard with a number; empty where there is none. -/
def shard (c : Cache) (i : Nat) : Shard :=
  c.shards.getD i []

/-- The numbers of the shards that keys belong to. -/
def usedShards (c : Cache) : Set Nat :=
  Set.range fun key => c.shardOf key

/-! ## The same layout -/

/-- Two caches that have as many shards, with the same keys and the same bound. -/
structure Alike (c d : Cache) : Prop where
  bound : c.bound = d.bound
  place : c.place = d.place
  shards : c.shards.length = d.shards.length

theorem Alike.shardOf_eq {c d : Cache} (h : c.Alike d) (key : CacheKey) : c.shardOf key = d.shardOf key := by
  rw [shardOf, shardOf, h.place, h.shards]

theorem Alike.shards_ne_nil {c d : Cache} (h : c.Alike d) (hd : d.shards ≠ []) : c.shards ≠ [] := by
  rw [← List.length_pos_iff, h.shards]
  exact List.length_pos_iff.2 hd

theorem Alike.usedShards_eq {c d : Cache} (h : c.Alike d) : c.usedShards = d.usedShards :=
  congrArg Set.range (funext h.shardOf_eq)

/-- No operation changes the layout. -/
theorem perform_alike (c : Cache) (op : Operation) : (c.perform op).Alike c := by
  cases op with
  | get key => exact ⟨rfl, rfl, by simp [perform, get]⟩
  | put key value => exact ⟨rfl, rfl, by simp [perform, put]⟩
  | clear => exact ⟨rfl, rfl, by simp [perform, clear]⟩

theorem performAll_alike (c : Cache) (ops : List Operation) : (c.performAll ops).Alike c := by
  induction ops generalizing c with
  | nil => exact ⟨rfl, rfl, rfl⟩
  | cons op ops ih =>
      have hrest := ih (c.perform op)
      have hstep := c.perform_alike op
      exact ⟨hrest.bound.trans hstep.bound, hrest.place.trans hstep.place, hrest.shards.trans hstep.shards⟩

/-! ## Shard by shard -/

theorem shardOf_lt {c : Cache} (h : c.shards ≠ []) (key : CacheKey) : c.shardOf key < c.shards.length :=
  Nat.mod_lt _ (List.length_pos_iff.2 h)

theorem getD_set (shards : List Shard) (i j : Nat) (s : Shard) :
    (shards.set i s).getD j [] = if i = j ∧ i < shards.length then s else shards.getD j [] := by
  simp only [List.getD_eq_getElem?_getD, List.getElem?_set]
  grind

theorem shard_get (c : Cache) (key : CacheKey) (i : Nat) :
    (c.get key).2.shard i
      = if c.shardOf key = i ∧ c.shardOf key < c.shards.length then (Shard.get key (c.shard i)).2
        else c.shard i := by
  simp only [shard, get, getD_set]
  grind

theorem shard_put (c : Cache) (key : CacheKey) (value : String) (i : Nat) :
    (c.put key value).shard i
      = if c.shardOf key = i ∧ c.shardOf key < c.shards.length then
          Shard.put c.bound key value (c.shard i)
        else c.shard i := by
  simp only [shard, put, getD_set]
  grind

theorem shard_clear (c : Cache) (i : Nat) : c.clear.shard i = [] := by
  simp only [shard, clear, List.getD_eq_getElem?_getD, List.getElem?_map]
  cases c.shards[i]? <;> rfl

theorem shard_newPlacing (place : CacheKey → Nat) (shards capacity i : Nat) :
    (newPlacing place shards capacity).shard i = [] := by
  simp only [shard, newPlacing, new, List.getD_eq_getElem?_getD, List.getElem?_replicate]
  split <;> rfl

theorem size_eq_sum (c : Cache) : c.size = ∑ i ∈ Finset.range c.shards.length, (c.shard i).length := by
  have hlengths := Fin.sum_univ_getElem (c.shards.map List.length)
  rw [size, List.length_flatten, ← hlengths, Finset.sum_range]
  refine Fintype.sum_equiv (finCongr (List.length_map _)) _ _ fun i => ?_
  have hi : i.val < c.shards.length := i.isLt.trans_eq (List.length_map _)
  simp [shard, hi]

/-! ## What operations keep -/

/-- A shard holds no more than it may, and nothing when no key belongs to it. -/
structure Bounded (c : Cache) : Prop where
  length_le : ∀ i, (c.shard i).length ≤ c.bound
  unused : ∀ i ∉ c.usedShards, c.shard i = []

theorem bounded_newPlacing (place : CacheKey → Nat) (shards capacity : Nat) :
    (newPlacing place shards capacity).Bounded where
  length_le i := by simp [shard_newPlacing]
  unused i _ := shard_newPlacing place shards capacity i

/-- A step that changes no shard but the one of a key, and leaves no more there than fits, keeps the
bounds. -/
theorem Bounded.of_shard_eq {c d : Cache} (h : c.Bounded) (halike : d.Alike c) (key : CacheKey)
    (hother : ∀ i, i ≠ c.shardOf key → d.shard i = c.shard i)
    (hown : (d.shard (c.shardOf key)).length ≤ c.bound) : d.Bounded where
  length_le i := by
    rw [halike.bound]
    by_cases hi : i = c.shardOf key
    · rw [hi]
      exact hown
    · rw [hother i hi]
      exact h.length_le i
  unused i hi := by
    rw [halike.usedShards_eq] at hi
    have hne : i ≠ c.shardOf key := fun heq => hi ⟨key, heq.symm⟩
    rw [hother i hne]
    exact h.unused i hi

theorem Bounded.perform {c : Cache} (h : c.Bounded) (op : Operation) : (c.perform op).Bounded := by
  have halike := c.perform_alike op
  cases op with
  | get key =>
      refine h.of_shard_eq halike key (fun i hi => ?_) ?_
      · exact (shard_get c key i).trans (if_neg fun hown => hi hown.1.symm)
      · show ((c.get key).2.shard (c.shardOf key)).length ≤ c.bound
        rw [shard_get]
        split
        · exact (Shard.length_get_le key _).trans (h.length_le _)
        · exact h.length_le _
  | put key value =>
      refine h.of_shard_eq halike key (fun i hi => ?_) ?_
      · exact (shard_put c key value i).trans (if_neg fun hown => hi hown.1.symm)
      · show ((c.put key value).shard (c.shardOf key)).length ≤ c.bound
        rw [shard_put]
        split
        · exact Shard.length_put_le _ key value _
        · exact h.length_le _
  | clear =>
      have hempty : ∀ i, (c.perform .clear).shard i = [] := shard_clear c
      exact ⟨fun i => by simp [hempty], fun i _ => hempty i⟩

theorem Bounded.performAll {c : Cache} (h : c.Bounded) (ops : List Operation) :
    (c.performAll ops).Bounded := by
  induction ops generalizing c with
  | nil => exact h
  | cons op ops ih => exact ih (h.perform op)

/-! ## Bounds on the number of entries -/

theorem usedShards_subset {c : Cache} (h : c.shards ≠ []) :
    c.usedShards ⊆ Finset.range c.shards.length := by
  rintro i ⟨key, rfl⟩
  exact Finset.mem_coe.2 (Finset.mem_range.2 (shardOf_lt h key))

theorem finite_usedShards {c : Cache} (h : c.shards ≠ []) : c.usedShards.Finite :=
  (Finset.finite_toSet _).subset (usedShards_subset h)

theorem ncard_usedShards_le {c : Cache} (h : c.shards ≠ []) : c.usedShards.ncard ≤ c.shards.length := by
  have hle := Set.ncard_le_ncard (usedShards_subset h) (Finset.finite_toSet _)
  rwa [Set.ncard_coe_finset, Finset.card_range] at hle

/-- Only the shards with keys count. -/
theorem Bounded.size_eq_sum {c : Cache} (h : c.Bounded) (hshards : c.shards ≠ []) :
    c.size = ∑ i ∈ (finite_usedShards hshards).toFinset, (c.shard i).length := by
  rw [Cache.size_eq_sum]
  refine (Finset.sum_subset ?_ fun i _ hi => ?_).symm
  · rw [← Finset.coe_subset, Set.Finite.coe_toFinset]
    exact usedShards_subset hshards
  · rw [Set.Finite.mem_toFinset] at hi
    rw [h.unused i hi, List.length_nil]

theorem Bounded.size_le {c : Cache} (h : c.Bounded) (hshards : c.shards ≠ []) :
    c.size ≤ c.usedShards.ncard * c.bound := by
  rw [h.size_eq_sum hshards, Set.ncard_eq_toFinset_card _ (finite_usedShards hshards)]
  exact Finset.sum_le_card_nsmul _ _ _ fun i _ => h.length_le i

/-- When every shard with keys holds an entry, there are at least as many entries as such shards. -/
theorem Bounded.le_size {c : Cache} (h : c.Bounded) (hshards : c.shards ≠ [])
    (hfull : ∀ i ∈ c.usedShards, c.shard i ≠ []) : c.usedShards.ncard ≤ c.size := by
  rw [h.size_eq_sum hshards, Set.ncard_eq_toFinset_card _ (finite_usedShards hshards),
    Finset.card_eq_sum_ones]
  refine Finset.sum_le_sum fun i hi => ?_
  exact List.length_pos_iff.2 (hfull i ((Set.Finite.mem_toFinset _).1 hi))

/-! ## Filling the shards -/

/-- A shard that holds something still does when more is put in, if there is room for any entry. -/
theorem shard_put_ne_nil {c : Cache} (hbound : 0 < c.bound) (key : CacheKey) (value : String) {i : Nat}
    (h : c.shard i ≠ []) : (c.put key value).shard i ≠ [] := by
  rw [shard_put]
  split
  · exact Shard.put_ne_nil hbound key value _
  · exact h

theorem shard_put_self_ne_nil {c : Cache} (hbound : 0 < c.bound) (hshards : c.shards ≠ [])
    (key : CacheKey) (value : String) : (c.put key value).shard (c.shardOf key) ≠ [] := by
  rw [shard_put, if_pos ⟨rfl, shardOf_lt hshards key⟩]
  exact Shard.put_ne_nil hbound key value _

/-- Put an entry under each of these keys. -/
def putEach (keys : List CacheKey) : List Operation :=
  keys.map fun key => .put key ""

/-- After entries were put under some keys, none of the shards of these keys is empty, nor any that was not
empty before. -/
theorem shard_putEach_ne_nil {c : Cache} (hbound : 0 < c.bound) (hshards : c.shards ≠ [])
    (keys : List CacheKey) {i : Nat} (h : c.shard i ≠ [] ∨ ∃ key ∈ keys, c.shardOf key = i) :
    (c.performAll (putEach keys)).shard i ≠ [] := by
  induction keys generalizing c with
  | nil => simpa [performAll, putEach] using h
  | cons key keys ih =>
      have halike : (c.put key "").Alike c := c.perform_alike (.put key "")
      have hroom : 0 < (c.put key "").bound := hbound
      refine ih hroom (halike.shards_ne_nil hshards) ?_
      rcases h with h | ⟨k, hk, rfl⟩
      · exact Or.inl (shard_put_ne_nil hbound key "" h)
      · rcases List.mem_cons.1 hk with rfl | hk
        · exact Or.inl (shard_put_self_ne_nil hbound hshards k "")
        · exact Or.inr ⟨k, hk, halike.shardOf_eq k⟩

/-- Some operations leave an entry in every shard that has keys. -/
theorem exists_performAll_full {c : Cache} (hbound : 0 < c.bound) (hshards : c.shards ≠ []) :
    ∃ ops, ∀ i ∈ (c.performAll ops).usedShards, (c.performAll ops).shard i ≠ [] := by
  have hkey : ∀ i ∈ c.usedShards, ∃ key, c.shardOf key = i := fun i hi => hi
  have : Nonempty CacheKey := ⟨⟨"", "", ""⟩⟩
  choose! keyOf hkeyOf using hkey
  refine ⟨putEach ((finite_usedShards hshards).toFinset.toList.map keyOf), fun i hi => ?_⟩
  rw [(c.performAll_alike _).usedShards_eq] at hi
  refine shard_putEach_ne_nil hbound hshards _ (Or.inr ⟨keyOf i, ?_, hkeyOf i hi⟩)
  simp only [List.mem_map, Finset.mem_toList, Set.Finite.mem_toFinset]
  exact ⟨i, hi, rfl⟩

/-! ## Capacity -/

section NewPlacing

variable (place : CacheKey → Nat) (shards capacity : Nat)

theorem length_shards_newPlacing : (newPlacing place shards capacity).shards.length = max 1 shards :=
  List.length_replicate

theorem shards_newPlacing_ne_nil : (newPlacing place shards capacity).shards ≠ [] := by
  rw [← List.length_pos_iff, length_shards_newPlacing]
  omega

/-- The entries that shards share out between them: a capacity is rounded down, but a shard that would get
nothing gets one. -/
theorem mul_max_one_div_le {used count capacity : Nat} (hcount : 0 < count) (hused : used ≤ count) :
    used * max 1 (capacity / count) ≤ max capacity used := by
  by_cases hlarge : count ≤ capacity
  · have hone : 1 ≤ capacity / count := (Nat.one_le_div_iff hcount).2 hlarge
    rw [max_eq_right hone]
    calc used * (capacity / count) ≤ count * (capacity / count) := Nat.mul_le_mul_right _ hused
      _ ≤ capacity := Nat.mul_div_le _ _
      _ ≤ max capacity used := le_max_left _ _
  · rw [Nat.div_eq_of_lt (not_le.1 hlarge), max_eq_left (Nat.zero_le 1), mul_one]
    exact le_max_right _ _

/-- A cache never holds more entries than its capacity, or than it has shards with keys if these are
more. -/
theorem size_performAll_newPlacing_le (ops : List Operation) :
    ((newPlacing place shards capacity).performAll ops).size
      ≤ max capacity (newPlacing place shards capacity).usedShards.ncard := by
  have hshards := shards_newPlacing_ne_nil place shards capacity
  have halike := (newPlacing place shards capacity).performAll_alike ops
  have hcount := ncard_usedShards_le hshards
  rw [length_shards_newPlacing] at hcount
  calc ((newPlacing place shards capacity).performAll ops).size
      ≤ ((newPlacing place shards capacity).performAll ops).usedShards.ncard
          * ((newPlacing place shards capacity).performAll ops).bound :=
        ((bounded_newPlacing place shards capacity).performAll ops).size_le (halike.shards_ne_nil hshards)
    _ = (newPlacing place shards capacity).usedShards.ncard * max 1 (capacity / max 1 shards) := by
        rw [halike.usedShards_eq, halike.bound]
        rfl
    _ ≤ max capacity (newPlacing place shards capacity).usedShards.ncard :=
        mul_max_one_div_le (by omega) hcount

theorem exists_ncard_usedShards_le_size :
    ∃ ops, (newPlacing place shards capacity).usedShards.ncard
      ≤ ((newPlacing place shards capacity).performAll ops).size := by
  have hbound : 0 < (newPlacing place shards capacity).bound := by
    show 0 < max 1 (capacity / max 1 shards)
    omega
  have hshards := shards_newPlacing_ne_nil place shards capacity
  obtain ⟨ops, hfull⟩ := exists_performAll_full hbound hshards
  have halike := (newPlacing place shards capacity).performAll_alike ops
  have hle := ((bounded_newPlacing place shards capacity).performAll ops).le_size
    (halike.shards_ne_nil hshards) hfull
  rw [halike.usedShards_eq] at hle
  exact ⟨ops, hle⟩

/-- **A cache keeps to its capacity when no more shards than that have keys.** However keys are assigned to
shards, whatever is looked up, put in and cleared, a new cache never holds more entries than its capacity or
than it has shards, whichever is more. It keeps to the capacity throughout exactly when the shards that keys
belong to are no more than the capacity; with more of them, and so with no capacity at all, putting one entry
into each goes beyond it. -/
theorem size_le_capacity_iff :
    (∀ ops, ((newPlacing place shards capacity).performAll ops).size ≤ max capacity (max 1 shards)) ∧
      ((∀ ops, ((newPlacing place shards capacity).performAll ops).size ≤ capacity) ↔
        (newPlacing place shards capacity).usedShards.ncard ≤ capacity) := by
  have hcount := ncard_usedShards_le (shards_newPlacing_ne_nil place shards capacity)
  rw [length_shards_newPlacing] at hcount
  refine ⟨fun ops => ?_, fun h => ?_, fun h ops => ?_⟩
  · exact (size_performAll_newPlacing_le place shards capacity ops).trans (max_le_max_left _ hcount)
  · obtain ⟨ops, hops⟩ := exists_ncard_usedShards_le_size place shards capacity
    exact hops.trans (h ops)
  · have hle := size_performAll_newPlacing_le place shards capacity ops
    rwa [max_eq_left h] at hle

end NewPlacing

/-- Two shards share a capacity of one, and hold an entry each. -/
theorem not_size_le_capacity_twoShards :
    ¬ ((new 2 1).performAll
      [.put ⟨"", "city", "hue"⟩ "Hue", .put ⟨"", "city", "la"⟩ "Los Angeles"]).size ≤ 1 := by
  decide +kernel

end Cache

end Audience.Mapping
