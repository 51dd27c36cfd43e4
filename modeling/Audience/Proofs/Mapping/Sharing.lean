import Audience.Proofs.Mapping.Standing

set_option autoImplicit false

/-! # Resolvers that share a cache

Several resolvers with scopes of their own resolve spellings at the same time over one cache. The cache
is looked up and filled under locks, and everything else of a call touches nothing that is shared; so a
call is a walk over stages with one access to the cache at most between two of them, and the calls are
interleaved stage by stage. Between stages any deadline may pass, any question to a store may fail, and
the cache may let go of entries. `Stage.next_next_next` says that the stages of a call that is left alone
are `Resolver.resolveDetailed`.

The invariant of a run is `World.Sound`: the cache is faithful to every resolver at once, each of its
entries was kept by a call with an answer that is not degraded, and every call is where its own records
or the rules take it. A step of a run keeps it (`World.Sound.step`), whatever the step is, because a call
writes under the scope of its own resolver and no other resolver has that scope. -/

namespace Audience.Mapping

/-! ## Stages of a call -/

/-- How far a call has come. -/
inductive Stage where
  | started
  | missed
  | asked (found : Resolution)
  | answered (res : Resolution)
  deriving DecidableEq

/-- The next stage of a call: look the key up, ask the store and the rules, keep the answer unless it is
degraded. -/
def Stage.next (r : Resolver) (deadline : Deadline) (category raw : String) :
    Stage → StateM Cache Stage
  | .started => fun cache =>
    let key := Text.fold raw
    if key.isEmpty then (.answered ⟨key, .passThrough, false⟩, cache)
    else match cache.get (r.cacheKey category key) with
      | (some value, cache) => (.answered ⟨value, .cache, false⟩, cache)
      | (none, cache) => (.missed, cache)
  | .missed => fun cache => (.asked (r.answer deadline category (Text.fold raw)), cache)
  | .asked found => fun cache =>
    (.answered found, if found.degraded then cache
      else cache.put (r.cacheKey category (Text.fold raw)) found.value)
  | .answered res => fun cache => (.answered res, cache)

/-- What the first stage of a call leads to: the answer to a spelling without a search key, an answer out
of the cache, or a miss. -/
theorem Stage.started_next (r : Resolver) (deadline : Deadline) (category raw : String)
    (cache : Cache) :
    ((Text.fold raw).isEmpty = true ∧
      (Stage.started.next r deadline category raw).run cache
        = (.answered ⟨Text.fold raw, .passThrough, false⟩, cache)) ∨
    ((Text.fold raw).isEmpty = false ∧
      ((∃ value, (cache.get (r.cacheKey category (Text.fold raw))).1 = some value ∧
        (Stage.started.next r deadline category raw).run cache
          = (.answered ⟨value, .cache, false⟩, (cache.get (r.cacheKey category (Text.fold raw))).2)) ∨
      (Stage.started.next r deadline category raw).run cache
        = (.missed, (cache.get (r.cacheKey category (Text.fold raw))).2))) := by
  simp only [StateT.run, Stage.next]
  cases hkey : (Text.fold raw).isEmpty with
  | true => exact Or.inl ⟨rfl, rfl⟩
  | false =>
      refine Or.inr ⟨rfl, ?_⟩
      rcases cache.get (r.cacheKey category (Text.fold raw)) with ⟨_ | value, cache'⟩
      · exact Or.inr rfl
      · exact Or.inl ⟨value, rfl, rfl⟩

/-- The stages of a call that nothing comes between make up the resolving of its spelling. -/
theorem Stage.next_next_next (r : Resolver) (deadline : Deadline) (category raw : String)
    (cache : Cache) :
    (do
      let s ← Stage.started.next r deadline category raw
      let s ← s.next r deadline category raw
      s.next r deadline category raw : StateM Cache Stage).run cache
    = ((Stage.answered ((r.resolveDetailed deadline category raw).run cache).1),
        ((r.resolveDetailed deadline category raw).run cache).2) := by
  simp only [StateT.run, bind, StateT.bind, Stage.next, Resolver.resolveDetailed]
  cases hkey : (Text.fold raw).isEmpty with
  | true => rfl
  | false =>
      simp only [Bool.false_eq_true, if_false]
      rcases cache.get (r.cacheKey category (Text.fold raw)) with ⟨_ | value, cache'⟩
      · rfl
      · rfl

/-- An answer to a spelling is right: a degraded one comes from the rules alone, any other has the value
that the spelling stands for, and comes out of the cache unless it is that answer itself. -/
structure Resolution.Right (r : Resolver) (category raw : String) (res : Resolution) : Prop where
  settled : res.degraded = false →
    res.value = (r.standing category raw).value ∧
      (res.source = .cache ∨ res = r.standing category raw)
  degraded : res.degraded = true → res = ruleAnswer category (Text.fold raw) true

/-- Where a call for a spelling may be. -/
inductive Stage.Right (r : Resolver) (category raw : String) : Stage → Prop where
  | started : Stage.Right r category raw .started
  | missed (hkey : (Text.fold raw).isEmpty = false) : Stage.Right r category raw .missed
  | asked {found : Resolution} (hkey : (Text.fold raw).isEmpty = false)
      (hfound : found.Right r category raw) : Stage.Right r category raw (.asked found)
  | answered {res : Resolution} (hres : res.Right r category raw) :
      Stage.Right r category raw (.answered res)

theorem standing_of_key {r : Resolver} {category raw : String}
    (h : (Text.fold raw).isEmpty = false) :
    r.standing category raw = r.keyAnswer category (Text.fold raw) := by
  simp [Resolver.standing, h]

/-- What the store and the rules answer is right, whatever fails while they are asked. -/
theorem Resolver.answer_right {r : Resolver} {exactOutage listOutage : Option Outage}
    {deadline : Deadline} {category raw : String} (h : (Text.fold raw).isEmpty = false) :
    ((r.during exactOutage listOutage).answer deadline category (Text.fold raw)).Right
      r category raw where
  settled hd := by
    have heq := answer_of_not_degraded hd
    rw [keyAnswer_during, ← standing_of_key h] at heq
    exact ⟨by rw [heq], Or.inr heq⟩
  degraded hd := answer_of_degraded hd

/-- A stage leads to a right one, as long as the cache is faithful to the resolver of the call. -/
theorem Stage.Right.next {r : Resolver} {exactOutage listOutage : Option Outage}
    {deadline : Deadline} {category raw : String} {s : Stage} {cache : Cache}
    (hs : s.Right r category raw) (hc : cache.Faithful r) :
    ((s.next (r.during exactOutage listOutage) deadline category raw).run cache).1.Right
      r category raw := by
  cases hs with
  | started =>
      rcases Stage.started_next (r.during exactOutage listOutage) deadline category raw cache with
        ⟨hkey, hout⟩ | ⟨hkey, ⟨value, hget, hout⟩ | hout⟩
      · rw [hout]
        exact .answered ⟨fun _ => by simp [Resolver.standing, hkey], fun h => by simp at h⟩
      · rw [hout]
        refine .answered ⟨fun _ => ⟨?_, Or.inl rfl⟩, fun h => by simp at h⟩
        rw [standing_of_key hkey]
        exact hc.value_eq_of_get hget
      · rw [hout]
        exact .missed hkey
  | missed hkey => exact .asked hkey (Resolver.answer_right hkey)
  | asked _ hfound => exact .answered hfound
  | answered hres => exact .answered hres

/-! ## Runs -/

/-- A spelling to be resolved, and by whom. -/
structure Call (ι : Type) where
  who : ι
  category : String
  raw : String
  deriving DecidableEq

/-- The cache, and every call that was ever made with the stage it is at. -/
structure World (ι : Type) where
  cache : Cache
  calls : List (Call ι × Stage)

/-- What may happen next: a call is made, a call goes on to its next stage while questions to its store
may fail and its deadline may pass, or entries go. -/
inductive Event (ι : Type) where
  | call (c : Call ι)
  | advance (n : Nat) (deadline : Deadline) (exactOutage listOutage : Option Outage)
  | evict (kept : CacheKey → Bool)
  | clear

namespace World

variable {ι : Type} (rs : ι → Resolver)

/-- No calls, and a cache of any shape without entries. -/
def start (cache : Cache) : World ι :=
  ⟨cache.clear, []⟩

/-- One event. -/
def step (w : World ι) : Event ι → World ι
  | .call c => { w with calls := w.calls ++ [(c, .started)] }
  | .advance n deadline exactOutage listOutage =>
    match w.calls[n]? with
    | none => w
    | some (c, stage) =>
      let r := (rs c.who).during exactOutage listOutage
      let (stage, cache) := (stage.next r deadline c.category c.raw).run w.cache
      ⟨cache, w.calls.set n (c, stage)⟩
  | .evict kept => { w with cache := w.cache.evict kept }
  | .clear => { w with cache := w.cache.clear }

/-- Events in the order in which they happen. -/
def run (w : World ι) (events : List (Event ι)) : World ι :=
  events.foldl (step rs) w

/-- The key under which the answer to a call is kept. -/
def keyOf (c : Call ι) : CacheKey :=
  (rs c.who).cacheKey c.category (Text.fold c.raw)

/-- An entry was kept by a call with an answer that is not degraded. -/
def KeptBy (calls : List (Call ι × Stage)) (e : CacheKey × String) : Prop :=
  ∃ c res, (c, Stage.answered res) ∈ calls ∧ res.degraded = false ∧ e = (keyOf rs c, res.value)

/-- The invariant of a run. -/
structure Sound (w : World ι) : Prop where
  faithful : ∀ i, w.cache.Faithful (rs i)
  kept : ∀ e ∈ w.cache.entries, KeptBy rs w.calls e
  right : ∀ p ∈ w.calls, p.2.Right (rs p.1.who) p.1.category p.1.raw

variable {rs}

theorem Sound.start (cache : Cache) : (World.start cache : World ι).Sound rs where
  faithful _ := Cache.Faithful.of_entries_eq_nil (Cache.entries_clear cache)
  kept e he := by simp [World.start] at he
  right p hp := by simp [World.start] at hp

/-- A world whose cache only lost entries stays sound. -/
theorem Sound.of_subset {w : World ι} (h : w.Sound rs) {cache : Cache}
    (hsub : ∀ e ∈ cache.entries, e ∈ w.cache.entries) :
    ({ w with cache } : World ι).Sound rs where
  faithful i := (h.faithful i).of_subset hsub
  kept e he := h.kept e (hsub e he)
  right := h.right

/-- What a stage does to the cache: it lets entries go, or it keeps the answer that it ends with. -/
theorem entries_next {r : Resolver} {deadline : Deadline} {category raw : String} {s : Stage}
    {cache : Cache} {e : CacheKey × String}
    (he : e ∈ ((s.next r deadline category raw).run cache).2.entries) :
    e ∈ cache.entries ∨ ∃ res, s = .asked res ∧ res.degraded = false ∧
      e = (r.cacheKey category (Text.fold raw), res.value) := by
  cases s with
  | started =>
      rcases Stage.started_next r deadline category raw cache with
        ⟨_, hout⟩ | ⟨_, ⟨_, _, hout⟩ | hout⟩
      · rw [hout] at he
        exact Or.inl he
      · rw [hout] at he
        exact Or.inl (Cache.mem_entries_of_mem_get he)
      · rw [hout] at he
        exact Or.inl (Cache.mem_entries_of_mem_get he)
  | missed => exact Or.inl he
  | asked found =>
      simp only [StateT.run, Stage.next] at he
      split at he
      · exact Or.inl he
      · next hd =>
          rw [Bool.not_eq_true] at hd
          rcases Cache.eq_or_mem_entries_of_mem_put he with heq | hmem
          · exact Or.inr ⟨found, rfl, hd, heq⟩
          · exact Or.inl hmem
  | answered res => exact Or.inl he

/-- A call that goes on, at the number that it has. -/
theorem step_advance {w : World ι} {n : Nat} {c : Call ι} {s : Stage} {deadline : Deadline}
    {exactOutage listOutage : Option Outage} (hn : w.calls[n]? = some (c, s)) :
    step rs w (.advance n deadline exactOutage listOutage) =
      ⟨((s.next ((rs c.who).during exactOutage listOutage) deadline c.category c.raw).run w.cache).2,
        w.calls.set n (c,
          ((s.next ((rs c.who).during exactOutage listOutage) deadline c.category c.raw).run
            w.cache).1)⟩ := by
  simp only [step, hn]
  rfl

/-- Calls with an answer stay as they are when one call goes on. -/
theorem mem_set_of_answered {calls : List (Call ι × Stage)} {n : Nat} {c c' : Call ι} {s : Stage}
    {res : Resolution} {r : Resolver} {deadline : Deadline} {cache : Cache}
    (hn : calls[n]? = some (c, s)) (h : (c', Stage.answered res) ∈ calls) :
    (c', Stage.answered res) ∈
      calls.set n (c, ((s.next r deadline c.category c.raw).run cache).1) := by
  obtain ⟨m, hm⟩ := List.mem_iff_getElem?.1 h
  by_cases hnm : n = m
  · subst hnm
    rw [hn] at hm
    simp only [Option.some.injEq, Prod.mk.injEq] at hm
    obtain ⟨rfl, rfl⟩ := hm
    exact List.mem_set (List.getElem?_eq_some_iff.1 hn).1 _
  · exact List.mem_iff_getElem?.2 ⟨m, by rw [List.getElem?_set_ne hnm]; exact hm⟩

/-- The invariant holds after any event. -/
theorem Sound.step (distinct : ∀ i j, (rs i).scope = (rs j).scope → i = j) {w : World ι}
    (h : w.Sound rs) (event : Event ι) : (World.step rs w event).Sound rs := by
  cases event with
  | call c =>
      refine ⟨h.faithful, fun e he => ?_, fun p hp => ?_⟩
      · obtain ⟨c', res, hmem, hrest⟩ := h.kept e he
        exact ⟨c', res, List.mem_append_left _ hmem, hrest⟩
      · rcases List.mem_append.1 hp with hp | hp
        · exact h.right p hp
        · obtain rfl := List.mem_singleton.1 hp
          exact .started
  | evict kept => exact h.of_subset fun _ => Cache.mem_entries_of_mem_evict
  | clear => exact h.of_subset fun e he => by simp at he
  | advance n deadline exactOutage listOutage =>
      cases hn : w.calls[n]? with
      | none =>
          simp only [World.step, hn]
          exact h
      | some p =>
          obtain ⟨c, s⟩ := p
          have hs : s.Right (rs c.who) c.category c.raw := h.right _ (List.mem_of_getElem? hn)
          have hmem : ∀ x, x ∈ w.calls.set n x :=
            fun x => List.mem_set (List.getElem?_eq_some_iff.1 hn).1 x
          rw [step_advance hn]
          refine ⟨fun i e he hscope => ?_, fun e he => ?_, fun p hp => ?_⟩
          · rcases entries_next he with hold | ⟨res, rfl, hd, rfl⟩
            · exact h.faithful i e hold hscope
            · -- The entry is under the scope of the caller, so the caller is the resolver in question.
              obtain rfl := distinct c.who i hscope
              cases hs with
              | asked hkey hfound =>
                  rw [(hfound.settled hd).1, standing_of_key hkey]
                  rfl
          · -- The call behind an old entry has its answer already, and no call changes its answer.
            rcases entries_next he with hold | ⟨res, rfl, hd, rfl⟩
            · obtain ⟨c', res, hans, hrest⟩ := h.kept e hold
              exact ⟨c', res, mem_set_of_answered hn hans, hrest⟩
            · exact ⟨c, res, hmem _, hd, rfl⟩
          · rcases List.mem_or_eq_of_mem_set hp with hold | rfl
            · exact h.right p hold
            · exact hs.next (h.faithful c.who)

/-- The invariant holds after any run. -/
theorem Sound.run (distinct : ∀ i j, (rs i).scope = (rs j).scope → i = j) {w : World ι}
    (h : w.Sound rs) (events : List (Event ι)) : (World.run rs w events).Sound rs := by
  induction events generalizing w with
  | nil => exact h
  | cons event rest ih => exact ih (h.step distinct event)

/-- **Memoization is sound under failures and sharing.** Resolvers with scopes of their own share a cache
of any shape. However their calls are interleaved, whichever questions to their stores fail, whichever
deadlines pass and whichever entries go: an answer that is not degraded has the value that the spelling
stands for by the resolver's own records and the rules, and is that answer itself unless it comes out of
the cache; a degraded one is that of the rules alone; and every entry of the cache was kept by a call
whose answer is not degraded. -/
theorem run_answers_right (rs : ι → Resolver)
    (distinct : ∀ i j, (rs i).scope = (rs j).scope → i = j) (cache : Cache)
    (events : List (Event ι)) :
    (∀ c res, (c, Stage.answered res) ∈ (run rs (start cache) events).calls →
      (res.degraded = false →
        res.value = ((rs c.who).standing c.category c.raw).value ∧
          (res.source = .cache ∨ res = (rs c.who).standing c.category c.raw)) ∧
      (res.degraded = true → res = ruleAnswer c.category (Text.fold c.raw) true)) ∧
    ∀ e ∈ (run rs (start cache) events).cache.entries,
      KeptBy rs (run rs (start cache) events).calls e := by
  have hsound : (run rs (start cache) events).Sound rs := (Sound.start cache).run distinct events
  refine ⟨fun c res hmem => ?_, hsound.kept⟩
  obtain hright : res.Right (rs c.who) c.category c.raw := by
    cases hsound.right _ hmem with
    | answered hres => exact hres
  exact ⟨hright.settled, hright.degraded⟩

/-- Two tenants, to whom "la" is not the same city. -/
def tenants (second : Bool) : Resolver :=
  if second then ⟨⟨.memory [⟨"city", "la", "Lagos"⟩], none, none⟩, "b", defaultThreshold⟩
  else ⟨⟨.memory [⟨"city", "la", "Los Angeles"⟩], none, none⟩, "a", defaultThreshold⟩

/-- Both tenants ask for "la" at once. The store of the second cannot be asked at first. -/
def tenantsAtOnce : List (Event Bool) :=
  let inTime (n : Nat) : Event Bool := .advance n .none none none
  [.call ⟨false, "city", "la"⟩, .call ⟨true, "city", "LA"⟩, .call ⟨true, "city", "la"⟩,
    inTime 0, inTime 1, inTime 2, inTime 0, .advance 1 .none (some ⟨"down"⟩) none, inTime 2,
    inTime 0, inTime 1, inTime 2, .evict fun key => key.scope == "a", .call ⟨false, "city", "la"⟩,
    inTime 3]

theorem tenants_distinct : ∀ i j, (tenants i).scope = (tenants j).scope → i = j := by
  intro i j h
  cases i <;> cases j <;> simp_all [tenants]

/-- Each tenant gets its own answer, and the one that failed is not in the way of the later ones. -/
theorem run_answers_right_tenants :
    (∀ i j, (tenants i).scope = (tenants j).scope → i = j) ∧
    (run tenants (start Cache.standard) tenantsAtOnce).calls
      = [(⟨false, "city", "la"⟩, .answered ⟨"Los Angeles", .exact, false⟩),
        (⟨true, "city", "LA"⟩, .answered ⟨"La", .rule, true⟩),
        (⟨true, "city", "la"⟩, .answered ⟨"Lagos", .exact, false⟩),
        (⟨false, "city", "la"⟩, .answered ⟨"Los Angeles", .cache, false⟩)] ∧
    (∀ c res, (c, Stage.answered res) ∈ (run tenants (start Cache.standard) tenantsAtOnce).calls →
      (res.degraded = false →
        res.value = ((tenants c.who).standing c.category c.raw).value ∧
          (res.source = .cache ∨ res = (tenants c.who).standing c.category c.raw)) ∧
      (res.degraded = true → res = ruleAnswer c.category (Text.fold c.raw) true)) ∧
    ∀ e ∈ (run tenants (start Cache.standard) tenantsAtOnce).cache.entries,
      KeptBy tenants (run tenants (start Cache.standard) tenantsAtOnce).calls e :=
  ⟨tenants_distinct, by decide +kernel,
    run_answers_right tenants tenants_distinct Cache.standard tenantsAtOnce⟩

end World

end Audience.Mapping
