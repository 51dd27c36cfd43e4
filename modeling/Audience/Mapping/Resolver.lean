import Audience.Mapping.Cache
import Audience.Mapping.Rules
import Audience.Mapping.Similarity
import Audience.Mapping.Store

set_option autoImplicit false

/-! # Resolving values

A spelling is resolved by its search key: the store's exact mapping first, then its most similar
record, then the rules, and at last the key itself. Answers are kept in the cache, unless the store
could not be asked: then the answer comes from rules alone and is not kept, since it may change once
the store answers again. -/

namespace Audience.Mapping

/-- Whether the time for asking the store has passed, at each moment when that is checked. -/
structure Deadline where
  beforeStandard : Bool
  beforeExact : Bool
  beforeList : Bool
  deriving DecidableEq

/-- There is no deadline. -/
def Deadline.none : Deadline :=
  ⟨false, false, false⟩

/-- The deadline has passed already. -/
def Deadline.passed : Deadline :=
  ⟨true, true, true⟩

/-- What is found about the deadline in the course of a run. A run has a first part and a rest, which are
runs in turn; the parts that a look-up is in say what is found there. -/
structure Clock where
  reading : List Bool → Deadline

namespace Clock

/-- There is no deadline. -/
def none : Clock :=
  ⟨fun _ => .none⟩

/-- The deadline has passed already. -/
def passed : Clock :=
  ⟨fun _ => .passed⟩

/-- What is found in a run of one look-up. -/
def now (c : Clock) : Deadline :=
  c.reading []

/-- What is found in the first part of a run. -/
def first (c : Clock) : Clock :=
  ⟨fun parts => c.reading (false :: parts)⟩

/-- What is found in the rest of a run. -/
def rest (c : Clock) : Clock :=
  ⟨fun parts => c.reading (true :: parts)⟩

end Clock

/-- Where an answer comes from. -/
inductive Source where
  | cache
  | exact
  | fuzzy (score : Float)
  | rule
  | passThrough
  deriving DecidableEq

/-- An answer, and whether the store should have been asked but was not. -/
structure Resolution where
  value : String
  source : Source
  degraded : Bool
  deriving DecidableEq

/-- A way to resolve values: a store, the scope of its answers in the cache, and how similar a record
has to be. -/
structure Resolver where
  store : Store
  scope : String
  threshold : Float

/-- The least similarity that counts unless another is given. -/
def defaultThreshold : Float := 0.8

/-- A threshold brought between 0 and 1. -/
def clampThreshold (x : Float) : Float :=
  if x < 0.0 then 0.0 else if 1.0 < x then 1.0 else x

/-- A resolver over a store. -/
def Resolver.new (store : Store) (scope : String) (threshold : Float) : Resolver :=
  ⟨store, scope, clampThreshold threshold⟩

/-- A resolver without any mappings. -/
def Resolver.standalone : Resolver :=
  .new .empty "" defaultThreshold

/-- The first of the records with the greatest score; `best` was the best one so far. -/
def bestRecord (score : Record → Float) (best : Option (Float × Record)) :
    List Record → Option (Float × Record)
  | [] => best
  | r :: rest =>
    let s := score r
    match best with
    | some (top, b) =>
      if top < s then bestRecord score (some (s, r)) rest
      else bestRecord score (some (top, b)) rest
    | none => bestRecord score (some (s, r)) rest

/-- The record most similar to a search key, if it is similar enough. -/
def fuzzyMatch (threshold : Float) (key : String) (records : List Record) :
    Option (Float × Record) :=
  match bestRecord (fun r => similarity key (Text.fold r.input)) none records with
  | some (score, r) => if threshold ≤ score then some (score, r) else none
  | none => none

/-- The answer of the rules to a search key, or the key itself. -/
def ruleAnswer (category key : String) (degraded : Bool) : Resolution :=
  match (ruleSet? category).bind (·.apply key) with
  | some value => ⟨value, .rule, degraded⟩
  | none => ⟨key, .passThrough, degraded⟩

namespace Resolver

/-- What the store says about a search key, and whether it could not be asked. -/
def askStore (r : Resolver) (deadline : Deadline) (category key : String) :
    Option (String × Source) × Bool :=
  if deadline.beforeExact then (none, true)
  else match r.store.exact category key with
    | .error _ => (none, true)
    | .ok (some value) => (some (value, .exact), false)
    | .ok none =>
      if deadline.beforeList then (none, true)
      else match r.store.allFor category with
        | .error _ => (none, true)
        | .ok records =>
          match fuzzyMatch r.threshold key records with
          | some (score, record) => (some (record.standard, .fuzzy score), false)
          | none => (none, false)

/-- The answer to a search key without the cache. -/
def answer (r : Resolver) (deadline : Deadline) (category key : String) : Resolution :=
  match r.askStore deadline category key with
  | (some (value, source), degraded) => ⟨value, source, degraded⟩
  | (none, degraded) => ruleAnswer category key degraded

/-- What an answer of this resolver is kept under. -/
def cacheKey (r : Resolver) (category key : String) : CacheKey :=
  ⟨r.scope, category, key⟩

/-- Resolve a spelling, and keep the answer for the next time. -/
def resolveDetailed (r : Resolver) (deadline : Deadline) (category raw : String) :
    StateM Cache Resolution := fun cache =>
  let key := Text.fold raw
  if key.isEmpty then (⟨key, .passThrough, false⟩, cache)
  else match cache.get (r.cacheKey category key) with
    | (some value, cache) => (⟨value, .cache, false⟩, cache)
    | (none, cache) =>
      let found := r.answer deadline category key
      (found, if found.degraded then cache else cache.put (r.cacheKey category key) found.value)

/-- The value that a spelling stands for. -/
def resolve (r : Resolver) (deadline : Deadline) (category raw : String) : StateM Cache String := do
  return (← r.resolveDetailed deadline category raw).value

/-- Whether a value is a standard value already: by a rule, or by a record if the store can be
asked. -/
def isStandard (r : Resolver) (deadline : Deadline) (category value : String) : Bool :=
  match ruleSet? category with
  | some set => set.isStandard value || stored
  | none => stored
where
  /-- Whether the store can be asked and has the value. -/
  stored : Bool :=
    !deadline.beforeStandard && match r.store.hasStandard category value with
      | .ok found => found
      | .error _ => false

/-- The standard value of a spelling: itself if it is one already, else what it stands for. -/
def standardize (r : Resolver) (deadline : Deadline) (category raw : String) :
    StateM Cache String :=
  if r.isStandard deadline category raw then pure raw else r.resolve deadline category raw

end Resolver

end Audience.Mapping
