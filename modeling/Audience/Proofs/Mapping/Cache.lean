import Audience.Mapping.Cache

set_option autoImplicit false

/-! # What a cache holds

Looking a key up moves its entry to the front of its shard, keeping a value lets go of old entries,
and clearing lets go of all. So the entries of a cache only ever come from what was put into it:
`Cache.entries` lists them, and every operation is described by what it does to that list. Nothing
here depends on how keys are spread over the shards or on how many entries a shard may hold. -/

namespace Audience.Mapping

/-! ## Shards -/

namespace Shard

theorem mem_of_mem_without {key : CacheKey} {s : Shard} {e : CacheKey × String}
    (h : e ∈ without key s) : e ∈ s :=
  (List.mem_filter.1 h).1

theorem mem_of_lookup {key : CacheKey} {value : String} {s : Shard}
    (h : s.lookup key = some value) : (key, value) ∈ s := by
  induction s with
  | nil => simp at h
  | cons e rest ih =>
      obtain ⟨k, v⟩ := e
      rw [List.lookup_cons] at h
      split at h
      · next hk =>
          rw [beq_iff_eq] at hk
          simp only [Option.some.injEq] at h
          subst hk h
          exact List.mem_cons_self
      · exact List.mem_cons_of_mem _ (ih h)

/-- What a look-up finds is an entry of the shard. -/
theorem mem_of_get {key : CacheKey} {value : String} {s : Shard}
    (h : (get key s).1 = some value) : (key, value) ∈ s := by
  unfold get at h
  split at h
  · next v hv =>
      simp only [Option.some.injEq] at h
      subst h
      exact mem_of_lookup hv
  · simp at h

/-- A look-up brings no entry into the shard. -/
theorem mem_of_mem_get {key : CacheKey} {s : Shard} {e : CacheKey × String}
    (h : e ∈ (get key s).2) : e ∈ s := by
  unfold get at h
  split at h
  · next v hv =>
      rcases List.mem_cons.1 h with rfl | h
      · exact mem_of_lookup hv
      · exact mem_of_mem_without h
  · exact h

/-- Putting an entry into a shard brings in no other. -/
theorem eq_or_mem_of_mem_put {bound : Nat} {key : CacheKey} {value : String} {s : Shard}
    {e : CacheKey × String} (h : e ∈ put bound key value s) : e = (key, value) ∨ e ∈ s := by
  rcases List.mem_cons.1 (List.mem_of_mem_take h) with rfl | h
  · exact Or.inl rfl
  · exact Or.inr (mem_of_mem_without h)

/-- An entry that was put into a shard with room is found. -/
theorem get_put_self {bound : Nat} (h : 0 < bound) (key : CacheKey) (value : String) (s : Shard) :
    (get key (put bound key value s)).1 = some value := by
  obtain ⟨n, rfl⟩ := Nat.exists_eq_succ_of_ne_zero (Nat.ne_of_gt h)
  simp [put, get]

end Shard

/-! ## Caches -/

namespace Cache

/-- The entries of all shards. -/
def entries (c : Cache) : List (CacheKey × String) :=
  c.shards.flatten

/-- Taking a member from the list of shards where there may be none brings in no entry. -/
theorem mem_entries_of_mem_getD {c : Cache} {i : Nat} {e : CacheKey × String}
    (h : e ∈ c.shards.getD i []) : e ∈ c.entries := by
  rw [List.getD_eq_getElem?_getD] at h
  cases hs : c.shards[i]? with
  | none => simp [hs] at h
  | some shard =>
      simp only [hs, Option.getD_some] at h
      exact List.mem_flatten.2 ⟨shard, List.mem_of_getElem? hs, h⟩

/-- With one shard replaced, an entry is one of the new shard or was there before. -/
theorem mem_or_mem_entries_of_set {c : Cache} {i : Nat} {shard : Shard} {e : CacheKey × String}
    (h : e ∈ (c.shards.set i shard).flatten) : e ∈ shard ∨ e ∈ c.entries := by
  obtain ⟨s, hs, he⟩ := List.mem_flatten.1 h
  rcases List.mem_or_eq_of_mem_set hs with hs | rfl
  · exact Or.inr (List.mem_flatten.2 ⟨s, hs, he⟩)
  · exact Or.inl he

/-- What a look-up finds is an entry of the cache. -/
theorem mem_entries_of_get {key : CacheKey} {value : String} {c : Cache}
    (h : (c.get key).1 = some value) : (key, value) ∈ c.entries :=
  mem_entries_of_mem_getD (Shard.mem_of_get h)

/-- A look-up brings no entry into the cache. -/
theorem mem_entries_of_mem_get {key : CacheKey} {c : Cache} {e : CacheKey × String}
    (h : e ∈ (c.get key).2.entries) : e ∈ c.entries := by
  rcases mem_or_mem_entries_of_set h with h | h
  · exact mem_entries_of_mem_getD (Shard.mem_of_mem_get h)
  · exact h

/-- Keeping a value brings in its own entry and no other. -/
theorem eq_or_mem_entries_of_mem_put {key : CacheKey} {value : String} {c : Cache}
    {e : CacheKey × String} (h : e ∈ (c.put key value).entries) :
    e = (key, value) ∨ e ∈ c.entries := by
  rcases mem_or_mem_entries_of_set h with h | h
  · rcases Shard.eq_or_mem_of_mem_put h with h | h
    · exact Or.inl h
    · exact Or.inr (mem_entries_of_mem_getD h)
  · exact Or.inr h

/-- A value that was put into a cache with room is found. -/
theorem get_put_self {c : Cache} (hbound : 0 < c.bound) (hshards : c.shards ≠ []) (key : CacheKey)
    (value : String) : ((c.put key value).get key).1 = some value := by
  have hpos : 0 < c.shards.length := List.length_pos_iff.2 hshards
  have hplace : c.shardOf key < c.shards.length := Nat.mod_lt _ hpos
  have hsame : (c.put key value).shardOf key = c.shardOf key := by
    simp [put, shardOf]
  have hshard : (c.put key value).shards.getD (c.shardOf key) []
      = Shard.put c.bound key value (c.shards.getD (c.shardOf key) []) := by
    simp [put, List.getD_eq_getElem?_getD, hplace]
  rw [get, hsame, hshard]
  exact Shard.get_put_self hbound key value _

@[simp] theorem entries_clear (c : Cache) : c.clear.entries = [] := by
  simp [entries, clear]

@[simp] theorem entries_new (shards capacity : Nat) : (new shards capacity).entries = [] := by
  simp [entries, new]

/-- A cache that has room for entries and holds none under a scope. -/
structure OpenTo (scope : String) (c : Cache) : Prop where
  bound : 0 < c.bound
  shards : c.shards ≠ []
  fresh : ∀ e ∈ c.entries, e.1.scope ≠ scope

theorem openTo_new (scope : String) (shards capacity : Nat) : (new shards capacity).OpenTo scope where
  bound := by simp only [new]; omega
  shards := by simp only [new, ne_eq, List.replicate_eq_nil_iff]; omega
  fresh e he := by simp at he

theorem OpenTo.get_eq_none {scope : String} {c : Cache} (h : c.OpenTo scope) {key : CacheKey}
    (hkey : key.scope = scope) : (c.get key).1 = none := by
  cases hget : (c.get key).1 with
  | none => rfl
  | some value => exact absurd hkey (h.fresh _ (mem_entries_of_get hget))

/-- What is put into an open cache after it was looked for is found. -/
theorem OpenTo.get_put_get {scope : String} {c : Cache} (h : c.OpenTo scope) (key : CacheKey)
    (value : String) : (((c.get key).2.put key value).get key).1 = some value := by
  have hshards : (c.get key).2.shards ≠ [] := by simp [get, h.shards]
  exact get_put_self (c := (c.get key).2) h.bound hshards key value

/-- A cache without some of its entries. Which ones go is up to `kept`. -/
def evict (kept : CacheKey → Bool) (c : Cache) : Cache :=
  { c with shards := c.shards.map fun s => s.filter fun e => kept e.1 }

theorem mem_entries_of_mem_evict {kept : CacheKey → Bool} {c : Cache} {e : CacheKey × String}
    (h : e ∈ (c.evict kept).entries) : e ∈ c.entries := by
  simp only [entries, evict, List.mem_flatten, List.mem_map] at h ⊢
  obtain ⟨_, ⟨s, hs, rfl⟩, he⟩ := h
  exact ⟨s, hs, (List.mem_filter.1 he).1⟩

end Cache

end Audience.Mapping
