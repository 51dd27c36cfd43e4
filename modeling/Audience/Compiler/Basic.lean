import Audience.Criteria.OfEntities
import Audience.Criteria.Reader
import Audience.Formula.OfStored
import Audience.Sentence.Entities
import Audience.Stored.Canonical

set_option autoImplicit false

/-! # The compiler

From a sentence or from criteria to a stored segment, and from there to SQL. Compilers over one store
may share a cache; the cache is handed from call to call. -/

namespace Audience

/-- What a compiler goes by. -/
structure Options where
  threshold : Float
  cacheCapacity : Nat
  cacheShards : Nat
  deadline : Mapping.Clock
  dialect : Dialect
  year : Int

/-- A compiler: a way to resolve values, and options. -/
structure Compiler where
  resolver : Mapping.Resolver
  options : Options

namespace Compiler

/-- A compiler over a store whose answers are kept under a scope. -/
def new (store : Mapping.Store) (scope : String) (options : Options) : Compiler :=
  ⟨.new store scope options.threshold, options⟩

/-- The cache of a compiler that does not share one. -/
def cacheOf (o : Options) : Mapping.Cache :=
  .new o.cacheShards o.cacheCapacity

/-- What normalizing goes by. -/
def setting (c : Compiler) : Criteria.Setting :=
  ⟨c.resolver, c.options.deadline, c.options.year⟩

/-- The compiler in the first part of a run. -/
def first (c : Compiler) : Compiler :=
  { c with options.deadline := c.options.deadline.first }

/-- The compiler in the rest of a run. -/
def rest (c : Compiler) : Compiler :=
  { c with options.deadline := c.options.deadline.rest }

/-- The criteria that entities make. -/
def criteriaOf (c : Compiler) (entities : List Entity) : StateM Mapping.Cache Criteria.Tree :=
  Criteria.Tree.ofEntities c.setting entities

/-- Criteria, brought into the vocabulary. -/
def normalize (c : Compiler) (t : Criteria.Tree) : StateM Mapping.Cache Criteria.Tree :=
  t.normalize c.setting

/-- The stored segment of criteria. -/
def compileTree (c : Compiler) (t : Criteria.Tree) : StateM Mapping.Cache Stored.Tree := do
  return .ofCriteria (← c.normalize t)

/-- The stored segment of a sentence. -/
def compileText (c : Compiler) (text : String) : StateM Mapping.Cache Stored.Tree := do
  c.rest.compileTree (← c.first.criteriaOf (Sentence.entities text))

/-- The stored segment of criteria given as JSON, read leniently. -/
def compileJson (c : Compiler) (value : Json) : StateM Mapping.Cache Stored.Tree :=
  c.compileTree (.ofJson value)

/-- The predicate of a stored segment. -/
def compileSql (c : Compiler) (t : Stored.Tree) : Except CompileError Predicate :=
  t.predicate c.options.dialect

end Compiler

end Audience
