set_option autoImplicit false

/-! # The cache of resolved values

Answers are kept by scope, category and search key. The cache is made of shards, each of which holds a
limited number of entries and lets go of the one used longest ago. Every key belongs to one shard. -/

namespace Audience.Mapping

/-- What an answer is kept under. A scope stands for the store whose answer it is. -/
structure CacheKey where
  scope : String
  category : String
  input : String
  deriving DecidableEq

/-- The entries of a shard, the one used last in front. -/
abbrev Shard := List (CacheKey × String)

namespace Shard

/-- The entries under other keys. -/
def without (key : CacheKey) (s : Shard) : Shard :=
  s.filter (·.1 != key)

/-- Look up a key, and move its entry to the front. -/
def get (key : CacheKey) (s : Shard) : Option String × Shard :=
  match s.lookup key with
  | some value => (some value, (key, value) :: without key s)
  | none => (none, s)

/-- Put an entry in front, and let go of what is beyond the bound. -/
def put (bound : Nat) (key : CacheKey) (value : String) (s : Shard) : Shard :=
  ((key, value) :: without key s).take bound

end Shard

/-- A cache: how many entries a shard may hold, which shard a key belongs to, and the shards. -/
structure Cache where
  bound : Nat
  place : CacheKey → Nat
  shards : List Shard

/-- A number for a key that spreads keys over the shards. -/
def spread (key : CacheKey) : Nat :=
  (key.scope ++ key.category ++ key.input).toList.foldl (fun n c => n + c.toNat) 0

namespace Cache

/-- An empty cache of so many shards that share a capacity. There is at least one shard, and each
holds at least one entry. -/
def new (shards capacity : Nat) : Cache :=
  let count := max 1 shards
  ⟨max 1 (capacity / count), spread, List.replicate count []⟩

/-- The cache of a resolver that is not given one. -/
def standard : Cache :=
  new 8 4096

/-- The number of the shard that a key belongs to. -/
def shardOf (key : CacheKey) (c : Cache) : Nat :=
  c.place key % c.shards.length

/-- Look up a key. -/
def get (key : CacheKey) (c : Cache) : Option String × Cache :=
  let i := c.shardOf key
  let (found, shard) := Shard.get key (c.shards.getD i [])
  (found, { c with shards := c.shards.set i shard })

/-- Keep a value under a key. -/
def put (key : CacheKey) (value : String) (c : Cache) : Cache :=
  let i := c.shardOf key
  { c with shards := c.shards.set i (Shard.put c.bound key value (c.shards.getD i [])) }

/-- How many entries there are. -/
def size (c : Cache) : Nat :=
  c.shards.flatten.length

/-- Let go of all entries. -/
def clear (c : Cache) : Cache :=
  { c with shards := c.shards.map fun _ => [] }

end Cache

end Audience.Mapping
