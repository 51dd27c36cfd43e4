import Audience.Compiler.Generator
import Audience.Proofs.Criteria.Normal
import Mathlib.Logic.Function.Basic
import Mathlib.Tactic.Choose

set_option autoImplicit false

/-! # Compilers that share a cache

Several compilers over one store are asked in any order, and the cache that each call leaves is the one
that the next call over it finds. `Compiler.answers` runs such a session for any placing of the caches:
with one cache for all, or one for each compiler.

Over one scope the compilers read each other's answers. An answer depends on the store, the spelling and
the threshold of its resolver, while it is kept under scope, category and search key alone. So sharing
changes no answer exactly when all compilers give every spelling the same value
(`Compiler.answers_shared_iff`); with one threshold for all they do (`Compiler.answers_shared`). -/

namespace Audience

open Mapping (Cache Clock Deadline Resolver Yields)

/-! ## Requests -/

/-- What a compiler may be asked for. A spelling is asked for its value alone, not for where the value was
found. -/
inductive Request where
  | resolve (category raw : String)
  | standardize (category raw : String)
  | criteria (entities : List Entity)
  | normalize (t : Criteria.Tree)
  | tree (t : Criteria.Tree)
  | text (text : String)
  | json (value : Json)
  | reply (text : String) (reply : Except GeneratorError Reply)
  | sql (t : Stored.Tree)

/-- What a compiler answers. -/
inductive Answer where
  | value (s : String)
  | criteria (t : Criteria.Tree)
  | stored (t : Stored.Tree)
  | outcome (o : Outcome)
  | predicate (p : Except CompileError Predicate)

/-! ## Reading what another wrote -/

namespace Mapping.Resolver

variable {r : Resolver} {cache : Cache}

theorem faithful_of_openTo (h : cache.OpenTo r.scope) :
    cache.Faithful r :=
  fun e he hscope => absurd hscope (h.fresh e he)

theorem run_resolve_of_get (deadline : Deadline) (category : String) {raw value : String}
    (hkey : (Text.fold raw).isEmpty = false)
    (hget : (cache.get (r.cacheKey category (Text.fold raw))).1 = some value) :
    ((r.resolve deadline category raw).run cache).1 = value := by
  rw [run_resolve]
  simp only [StateT.run, resolveDetailed, hkey, Bool.false_eq_true, if_false]
  split
  · next value' cache' hfound =>
      rw [hfound] at hget
      exact Option.some.inj hget
  · next cache' hfound =>
      rw [hfound] at hget
      simp at hget

/-- What a spelling was resolved to is found under its search key. -/
theorem get_run_resolve (h : r.Answers) (hcache : cache.OpenTo r.scope) (category : String)
    {raw : String} (hkey : (Text.fold raw).isEmpty = false) :
    (((r.resolve .none category raw).run cache).2.get (r.cacheKey category (Text.fold raw))).1
      = some (r.standing category raw).value := by
  have hmiss : (cache.get (r.cacheKey category (Text.fold raw))).1 = none := hcache.get_eq_none rfl
  have hput := hcache.get_put_get (r.cacheKey category (Text.fold raw))
    (r.keyAnswer category (Text.fold raw)).value
  rw [run_resolve]
  simp only [StateT.run, resolveDetailed, standing, hkey, Bool.false_eq_true, if_false]
  split
  · next value cache' hfound =>
      rw [hfound] at hmiss
      simp at hmiss
  · next cache' hfound =>
      rw [hfound] at hput
      simpa [answer_none h] using hput

end Mapping.Resolver

/-- The value that a spelling was found to have, if that was asked for. -/
def Answer.value? : Answer → Option String
  | .value s => some s
  | _ => none

namespace Compiler

/-- Answer a request. -/
def serve (c : Compiler) : Request → StateM Cache Answer
  | .resolve category raw => do
    return .value (← c.resolver.resolve c.options.deadline.now category raw)
  | .standardize category raw => do
    return .value (← c.resolver.standardize c.options.deadline.now category raw)
  | .criteria entities => do return .criteria (← c.criteriaOf entities)
  | .normalize t => do return .criteria (← c.normalize t)
  | .tree t => do return .stored (← c.compileTree t)
  | .text text => do return .stored (← c.compileText text)
  | .json value => do return .stored (← c.compileJson value)
  | .reply text reply => do return .outcome (← c.compileReply text reply)
  | .sql t => pure (.predicate (c.compileSql t))

variable {ι κ : Type} [DecidableEq κ]

/-- The answers to requests in order, each put to one of the compilers over the cache at its place. -/
def answers (compilers : ι → Compiler) (place : ι → κ) :
    (κ → Cache) → List (ι × Request) → List Answer
  | _, [] => []
  | caches, (i, q) :: rest =>
    let (answer, cache) := ((compilers i).serve q).run (caches (place i))
    answer :: answers compilers place (Function.update caches (place i) cache) rest

theorem run_serve_resolve (c : Compiler) (category raw : String) (cache : Cache) :
    (c.serve (.resolve category raw)).run cache
      = (.value ((c.resolver.resolve c.options.deadline.now category raw).run cache).1,
        ((c.resolver.resolve c.options.deadline.now category raw).run cache).2) := by
  have hrun : ∀ m : StateM Cache String, (do return .value (← m) : StateM Cache Answer).run cache
      = (.value (m.run cache).1, (m.run cache).2) := fun _ => rfl
  rw [serve, hrun]

theorem answers_cons (compilers : ι → Compiler) (place : ι → κ) (caches : κ → Cache) (i : ι)
    (q : Request) (rest : List (ι × Request)) :
    answers compilers place caches ((i, q) :: rest)
      = (((compilers i).serve q).run (caches (place i))).1
        :: answers compilers place
          (Function.update caches (place i) (((compilers i).serve q).run (caches (place i))).2) rest :=
  rfl

end Compiler

/-! ## One answer to a request -/

namespace Criteria

variable {s : Setting}

/-- Items that have a result each have one list of results. -/
theorem exists_yields_each (hs : s.InTime) {α β : Type} {f : Setting → α → StateM Cache β}
    (h : ∀ x, ∃ y, Yields s.resolver (f s x) y) (xs : List α) :
    ∃ ys, Yields s.resolver (each f s xs) ys := by
  choose g hg using h
  exact ⟨xs.map g, yields_each hs hg xs⟩

theorem exists_yields_resolveIn (hs : s.InTime) (mapping : Option Category) (value : Scalar) :
    ∃ v, Yields s.resolver (s.resolveIn mapping value) v := by
  cases mapping with
  | none => exact ⟨value, .pure value⟩
  | some category =>
      cases value with
      | text raw =>
          simp only [Setting.resolveIn, hs.now_eq]
          exact ⟨_, (Mapping.Resolver.yields_resolve hs.answers category.name raw).bind (.pure _)⟩
      | _ => exact ⟨_, .pure _⟩

theorem Attribute.exists_yields_ofEntity (hs : s.InTime) (dataset field operator : String)
    (value value2 : Scalar) :
    ∃ a, Yields s.resolver (Attribute.ofEntity s dataset field operator value value2) a := by
  simp only [Attribute.ofEntity]
  split
  · exact ⟨_, .pure _⟩
  · obtain ⟨v, hv⟩ := exists_yields_resolveIn hs (Catalog.mapping dataset field) value
    exact ⟨_, hv.bind (.pure _)⟩

theorem Condition.exists_yields_ofEntity (hs : s.InTime) (entity : Entity) :
    ∃ c, Yields s.resolver (Condition.ofEntity s entity) c := by
  match entity with
  | .event name measure => exact ⟨_, .pure _⟩
  | .attribute dataset field operator value value2 =>
      obtain ⟨a, ha⟩ := Attribute.exists_yields_ofEntity hs dataset field operator value value2
      exact ⟨_, ha.bind (.pure _)⟩

theorem Tree.exists_yields_ofEntities (hs : s.InTime) (entities : List Entity) :
    ∃ t, Yields s.resolver (Tree.ofEntities s entities) t := by
  obtain ⟨cs, hcs⟩ := exists_yields_each hs (Condition.exists_yields_ofEntity hs) entities
  exact ⟨_, hcs.bind (.pure _)⟩

end Criteria

namespace Compiler

variable {c : Compiler}

theorem yields_compileTree (hc : c.setting.InTime) (t : Criteria.Tree) :
    Yields c.resolver (c.compileTree t) (.ofCriteria (t.normal c.setting)) :=
  (t.yields_normalize hc).bind (.pure _)

theorem first_eq (hc : c.setting.InTime) : c.first = c := by
  have hdeadline : c.options.deadline = .none := hc.deadline
  rw [first, hdeadline]
  exact congrArg (fun clock => { c with options.deadline := clock }) hdeadline.symm

theorem rest_eq (hc : c.setting.InTime) : c.rest = c := by
  have hdeadline : c.options.deadline = .none := hc.deadline
  rw [rest, hdeadline]
  exact congrArg (fun clock => { c with options.deadline := clock }) hdeadline.symm

theorem exists_yields_compileText (hc : c.setting.InTime) (text : String) :
    ∃ t, Yields c.resolver (c.compileText text) t := by
  obtain ⟨criteria, hcriteria⟩ :=
    Criteria.Tree.exists_yields_ofEntities hc (Sentence.entities text)
  rw [compileText, first_eq hc, rest_eq hc]
  exact ⟨_, hcriteria.bind (yields_compileTree hc criteria)⟩

theorem exists_yields_compileReply (hc : c.setting.InTime) (text : String)
    (reply : Except GeneratorError Reply) :
    ∃ o, Yields c.resolver (c.compileReply text reply) o := by
  match reply with
  | .ok (.criteria t) => exact ⟨_, (yields_compileTree hc t).bind (.pure _)⟩
  | .ok (.rejected message) => exact ⟨_, .pure _⟩
  | .error _ =>
      obtain ⟨t, ht⟩ := exists_yields_compileText hc text
      exact ⟨_, ht.bind (.pure _)⟩

/-- Over a faithful cache a compiler has one answer to every request. -/
theorem exists_yields_serve (hc : c.setting.InTime) (q : Request) :
    ∃ answer, Yields c.resolver (c.serve q) answer := by
  have hnow : c.options.deadline.now = .none := hc.now_eq
  cases q with
  | resolve category raw =>
      rw [serve, hnow]
      exact ⟨_, (Resolver.yields_resolve hc.answers category raw).bind (.pure _)⟩
  | standardize category raw =>
      rw [serve, hnow]
      exact ⟨_, (Resolver.yields_standardize hc.answers category raw).bind (.pure _)⟩
  | criteria entities =>
      obtain ⟨t, ht⟩ := Criteria.Tree.exists_yields_ofEntities hc entities
      exact ⟨_, ht.bind (.pure _)⟩
  | normalize t => exact ⟨_, (t.yields_normalize hc).bind (.pure _)⟩
  | tree t => exact ⟨_, (yields_compileTree hc t).bind (.pure _)⟩
  | text text =>
      obtain ⟨t, ht⟩ := exists_yields_compileText hc text
      exact ⟨_, ht.bind (.pure _)⟩
  | json value => exact ⟨_, (yields_compileTree hc (.ofJson value)).bind (.pure _)⟩
  | reply text reply =>
      obtain ⟨o, ho⟩ := exists_yields_compileReply hc text reply
      exact ⟨_, ho.bind (.pure _)⟩
  | sql t => exact ⟨_, .pure _⟩

/-! ## Compilers that agree -/

/-- Compilers over one store whose answers are kept under one scope. -/
def family {ι : Type} (store : Mapping.Store) (scope : String) (options : ι → Options) (i : ι) :
    Compiler :=
  .new store scope (options i)

/-- Compilers give every spelling the same value. -/
def Agree {ι : Type} (compilers : ι → Compiler) : Prop :=
  ∀ i j category raw, ((compilers i).resolver.standing category raw).value
    = ((compilers j).resolver.standing category raw).value

/-- Every entry under a scope is one that some of the compilers keep. -/
def Kept {ι : Type} (compilers : ι → Compiler) (scope : String) (cache : Cache) : Prop :=
  ∀ e ∈ cache.entries, e.1.scope = scope → ∃ i, (compilers i).resolver.Keeps e

section Sessions

variable {ι : Type} {compilers : ι → Compiler} {scope : String}

/-- What compilers that agree keep is faithful to each of them. -/
theorem Kept.faithful (hscope : ∀ i, (compilers i).resolver.scope = scope)
    (hagree : Agree compilers) {cache : Cache} (h : Kept compilers scope cache) (i : ι) :
    cache.Faithful (compilers i).resolver := by
  intro e he hesc
  obtain ⟨j, category, raw, hkey, rfl⟩ := h e he (hesc.trans (hscope i))
  have hsame := hagree j i category raw
  simp only [Resolver.cacheKey]
  rw [hsame, Resolver.standing, if_neg (by simp [hkey])]

theorem Kept.serve (hscope : ∀ i, (compilers i).resolver.scope = scope)
    (hagree : Agree compilers) {cache : Cache} (h : Kept compilers scope cache) {i : ι}
    {q : Request} {answer : Answer} (hq : Yields (compilers i).resolver ((compilers i).serve q) answer) :
    (((compilers i).serve q).run cache).1 = answer ∧
      Kept compilers scope (((compilers i).serve q).run cache).2 := by
  obtain ⟨hanswer, hnew⟩ := hq cache (h.faithful hscope hagree i)
  refine ⟨hanswer, fun e he hesc => ?_⟩
  rcases hnew e he with hold | hkeeps
  · exact h e hold hesc
  · exact ⟨i, hkeeps⟩

/-- Where compilers that agree have their caches makes no difference to their answers. -/
theorem answers_eq_answers {κ κ' : Type} [DecidableEq κ] [DecidableEq κ']
    (hscope : ∀ i, (compilers i).resolver.scope = scope)
    (htime : ∀ i, (compilers i).setting.InTime) (hagree : Agree compilers) (place : ι → κ)
    (place' : ι → κ') (requests : List (ι × Request)) {caches : κ → Cache} {caches' : κ' → Cache}
    (hcaches : ∀ k, Kept compilers scope (caches k))
    (hcaches' : ∀ k, Kept compilers scope (caches' k)) :
    answers compilers place caches requests = answers compilers place' caches' requests := by
  induction requests generalizing caches caches' with
  | nil => rfl
  | cons request rest ih =>
      obtain ⟨i, q⟩ := request
      obtain ⟨answer, hq⟩ := exists_yields_serve (htime i) q
      obtain ⟨hanswer, hkept⟩ := (hcaches (place i)).serve hscope hagree hq
      obtain ⟨hanswer', hkept'⟩ := (hcaches' (place' i)).serve hscope hagree hq
      rw [answers_cons, answers_cons, hanswer, hanswer']
      congr 1
      refine ih (fun k => ?_) (fun k => ?_)
      · by_cases hk : k = place i
        · subst hk
          rwa [Function.update_self]
        · rw [Function.update_of_ne hk]
          exact hcaches k
      · by_cases hk : k = place' i
        · subst hk
          rwa [Function.update_self]
        · rw [Function.update_of_ne hk]
          exact hcaches' k

end Sessions

/-- The compilers of a family have the store, the scope and the threshold they were made with. -/
theorem family_inTime {ι : Type} {store : Mapping.Store}
    (hstore : store.exactOutage = none ∧ store.listOutage = none) (scope : String)
    {options : ι → Options} (hoptions : ∀ i, (options i).deadline = .none) (i : ι) :
    (family store scope options i).setting.InTime :=
  ⟨hoptions i, hstore⟩

/-- With one threshold, brought between 0 and 1, spellings have one value. -/
theorem agree_of_threshold {ι : Type} {store : Mapping.Store} {scope : String} {options : ι → Options}
    (h : ∀ i j, Mapping.clampThreshold (options i).threshold
      = Mapping.clampThreshold (options j).threshold) :
    Agree (family store scope options) := by
  intro i j category raw
  have hresolver : (family store scope options i).resolver = (family store scope options j).resolver := by
    simp only [family, new, Resolver.new, h i j]
  rw [hresolver]

section Sharing

variable {ι : Type} [DecidableEq ι] {store : Mapping.Store}
  (hstore : store.exactOutage = none ∧ store.listOutage = none) {scope : String}
  {options : ι → Options} (hoptions : ∀ i, (options i).deadline = .none) {shared : Cache}
  (hshared : shared.OpenTo scope) {own : ι → Cache} (hown : ∀ i, (own i).OpenTo scope)

include hstore hoptions hshared hown

theorem answers_shared_of_agree (hagree : Agree (family store scope options))
    (requests : List (ι × Request)) :
    answers (family store scope options) (fun _ => ()) (fun _ => shared) requests
      = answers (family store scope options) id own requests := by
  have hfresh : ∀ cache : Cache, cache.OpenTo scope →
      Kept (family store scope options) scope cache :=
    fun cache hcache e he hesc => absurd hesc (hcache.fresh e he)
  have hscope : ∀ i, (family store scope options i).resolver.scope = scope := fun _ => rfl
  have htime := family_inTime hstore scope hoptions
  exact answers_eq_answers hscope htime hagree (fun _ => ()) id requests
    (fun _ => hfresh shared hshared) fun i => hfresh (own i) (hown i)

/-- Compilers with one threshold may share a cache, whatever their years and dialects. -/
theorem answers_shared (hthreshold : ∀ i j, Mapping.clampThreshold (options i).threshold
      = Mapping.clampThreshold (options j).threshold) (requests : List (ι × Request)) :
    answers (family store scope options) (fun _ => ()) (fun _ => shared) requests
      = answers (family store scope options) id own requests :=
  answers_shared_of_agree hstore hoptions hshared hown (agree_of_threshold hthreshold) requests

end Sharing

/-- **When compilers may share a cache.** Compilers over one healthy store, with one scope, any options
but no deadline, are asked in any order: over one cache, which holds nothing under that scope yet, they
answer as each would over a cache of its own if they give every spelling the same value, and only then. -/
theorem answers_shared_iff {ι : Type} [DecidableEq ι] {store : Mapping.Store}
    (hstore : store.exactOutage = none ∧ store.listOutage = none) {scope : String}
    {options : ι → Options} (hoptions : ∀ i, (options i).deadline = .none) {shared : Cache}
    (hshared : shared.OpenTo scope) {own : ι → Cache} (hown : ∀ i, (own i).OpenTo scope) :
    (∀ requests, answers (family store scope options) (fun _ => ()) (fun _ => shared) requests
        = answers (family store scope options) id own requests) ↔
      Agree (family store scope options) := by
  constructor
  · intro h i j category raw
    by_cases hij : j = i
    · rw [hij]
    by_cases hkey : (Text.fold raw).isEmpty = true
    · simp [Resolver.standing, hkey]
    rw [Bool.not_eq_true] at hkey
    -- The second compiler reads what the first one wrote.
    have hpair := h [(i, .resolve category raw), (j, .resolve category raw)]
    simp only [answers, run_serve_resolve, Function.update_self, id_eq, Function.update_of_ne hij,
      List.cons.injEq, Answer.value.injEq, and_true] at hpair
    obtain ⟨-, hsecond⟩ := hpair
    have hnow : ∀ k, (family store scope options k).options.deadline.now = .none :=
      fun k => congrArg Clock.now (hoptions k)
    have hanswers : ∀ k, (family store scope options k).resolver.Answers := fun _ => hstore
    rw [hnow i, hnow j] at hsecond
    have hkept := Resolver.get_run_resolve (hanswers i) hshared category hkey
    have hread := Resolver.run_resolve_of_get (r := (family store scope options j).resolver) .none
      category hkey hkept
    have halone := (Resolver.yields_resolve (hanswers j) category raw (own j)
      (Resolver.faithful_of_openTo (hown j))).1
    rw [← hread, hsecond, halone]
  · exact answers_shared_of_agree hstore hoptions hshared hown

/-- A store that knows one product category. -/
def electronics : Mapping.Store :=
  ⟨.memory [⟨"product_category", "electronics", "Electronics"⟩], none, none⟩

/-- Options without a deadline. -/
def optionsWith (threshold : Float) (dialect : Dialect) (year : Int) : Options :=
  ⟨threshold, 4096, 8, .none, dialect, year⟩

/-- Of two compilers with one threshold, neither notices the other. -/
theorem answers_shared_iff_dialects :
    let options : Bool → Options := fun b =>
      if b then optionsWith 0.8 .sqlite 2024 else optionsWith 0.8 .postgres 2025
    (∀ b, (options b).deadline = .none) ∧ Agree (family electronics "" options) ∧
      ∀ requests, answers (family electronics "" options) (fun _ => ()) (fun _ => .standard) requests
        = answers (family electronics "" options) id (fun b => cacheOf (options b)) requests := by
  intro options
  have hoptions : ∀ b, (options b).deadline = .none := by
    intro b
    cases b <;> rfl
  have hagree : Agree (family electronics "" options) := agree_of_threshold fun i j => by
    cases i <;> cases j <;> rfl
  refine ⟨hoptions, hagree, ?_⟩
  exact (answers_shared_iff ⟨rfl, rfl⟩ hoptions (Cache.openTo_new "" 8 4096)
    fun b => Cache.openTo_new "" _ _).2 hagree

/-- A spelling that is similar enough for the first compiler and not for the second. Over a shared cache
the second gives the answer of the first. -/
theorem answers_shared_ne :
    let options : Bool → Options := fun b => optionsWith (if b then 1.0 else 0.8) .postgres 2025
    let requests : List (Bool × Request) :=
      [(false, .resolve "product_category" "electronicss"),
        (true, .resolve "product_category" "electronicss")]
    (∀ b, (options b).deadline = .none) ∧
      answers (family electronics "" options) (fun _ => ()) (fun _ => .standard) requests
        ≠ answers (family electronics "" options) id (fun b => cacheOf (options b)) requests := by
  intro options requests
  refine ⟨fun b => rfl, fun h => ?_⟩
  have hvalues := congrArg (List.map Answer.value?) h
  revert hvalues
  decide +kernel

end Compiler

end Audience
