import Audience.Proofs.Mapping.Standardize

set_option autoImplicit false

/-! # Sessions

A resolver uses a cache for as long as a session lasts, and so do others with scopes of their own. Between
two of its calls any calls may come, with whatever deadlines and outages, and entries may go. All that a
session rests on is that the cache stays faithful to its resolver: one call keeps it so
(`Cache.Faithful.resolve`), and so does a run of calls (`Cache.Faithful.after`).

Over a faithful cache a standard value comes back as it is, wherever it came from. It is known to a record
or to a rule, or nobody knows it, and then it is a search key and so its own search key
(`Resolver.standardOf_standardOf`). Only in the category whose values are written with capitals may it be
otherwise. -/

namespace Audience.Mapping

/-! ## Standard values of standard values -/

/-- Only cities are written with capitals. -/
theorem name_eq_city_of_titled {category : String} {set : RuleSet} (h : ruleSet? category = some set)
    (htitled : set.titled = true) : category = Category.city.name := by
  obtain ⟨c, hc, hrules⟩ := Option.bind_eq_some_iff.1 h
  have hname := List.find?_some hc
  rw [beq_iff_eq] at hname
  rw [← hname]
  cases c with
  | city => rfl
  | productCategory => simp [rulesOf] at hrules
  | _ =>
      obtain rfl := Option.some.inj hrules
      simp at htitled

/-- Where values are not written with capitals, what the rules give is the standard value of one. -/
theorem RuleSet.exists_rule_of_apply {set : RuleSet} (htitled : set.titled = false) {key value : String}
    (h : set.apply key = some value) : ∃ rule ∈ set.rules, rule.standard = value := by
  unfold apply at h
  cases hrule : set.rules.find? (·.covers key) with
  | some rule =>
      rw [hrule] at h
      exact ⟨rule, List.mem_of_find?_eq_some hrule, Option.some.inj h⟩
  | none => simp [hrule, htitled] at h

namespace Resolver

variable {r : Resolver} {category : String}

/-- What a spelling stands for is known to a record or to a rule, or it is its search key. -/
theorem isStandard_standing_or (h : r.Answers) (hcity : category ≠ Category.city.name) (raw : String) :
    r.isStandard .none category (r.standing category raw).value = true ∨
      (r.standing category raw).value = Text.fold raw := by
  cases hkey : (Text.fold raw).isEmpty with
  | true => exact Or.inr (by simp [standing, hkey])
  | false =>
      simp only [standing, hkey, Bool.false_eq_true, if_false, keyAnswer]
      cases hrec : r.recorded? category (Text.fold raw) with
      | some found =>
          obtain ⟨record, hmem, hvalue⟩ := exists_record_of_recorded? hrec
          left
          show r.isStandard .none category found.1 = true
          rw [← hvalue]
          exact isStandard_of_record h hmem
      | none =>
          simp only [ruleAnswer]
          cases happly : (ruleSet? category).bind (·.apply (Text.fold raw)) with
          | none => exact Or.inr rfl
          | some value =>
              left
              obtain ⟨set, hset, hvalue⟩ := Option.bind_eq_some_iff.1 happly
              have htitled : set.titled = false := by
                rw [← Bool.not_eq_true]
                exact fun ht => hcity (name_eq_city_of_titled hset ht)
              obtain ⟨rule, hmem, rfl⟩ := RuleSet.exists_rule_of_apply htitled hvalue
              exact isStandard_of_rule h hset hmem

/-- A standard value is its own standard value, unless it may be written with capitals. -/
theorem standardOf_standardOf (h : r.Answers) (hcity : category ≠ Category.city.name) (raw : String) :
    r.standardOf category (r.standardOf category raw) = r.standardOf category raw := by
  have hkept : ∀ value, r.isStandard .none category value = true →
      r.standardOf category value = value := fun value hv => by rw [standardOf, if_pos hv]
  by_cases hstd : r.isStandard .none category raw = true
  · rw [hkept raw hstd, hkept raw hstd]
  · have hvalue : r.standardOf category raw = (r.standing category raw).value := by
      rw [standardOf, if_neg hstd]
    rcases isStandard_standing_or h hcity raw with hs | hself
    · rw [hvalue, hkept _ hs]
    · -- The search key of the search key is the same, so it is looked for once more in the same way.
      have hagain : (r.standing category (Text.fold raw)).value = Text.fold raw := by
        simp only [standing, Text.fold_fold] at hself ⊢
        exact hself
      rw [hvalue, hself, standardOf]
      split
      · rfl
      · exact hagain

end Resolver

/-! ## Calls in between -/

/-- Who may use the cache of a session besides: the resolver itself, whatever is out of order in its store
for the moment, and any other that has another scope. -/
def Resolver.Beside (r who : Resolver) : Prop :=
  (∃ exactOutage listOutage, who = r.during exactOutage listOutage) ∨ who.scope ≠ r.scope

/-- What may happen to a cache: somebody resolves or standardizes a spelling while a deadline may pass, or
entries go. -/
inductive Happening where
  | resolve (who : Resolver) (deadline : Deadline) (category raw : String)
  | standardize (who : Resolver) (deadline : Deadline) (category raw : String)
  | evict (kept : CacheKey → Bool)
  | clear

/-- Whether something may happen during the session of a resolver. -/
def Happening.During (r : Resolver) : Happening → Prop
  | .resolve who _ _ _ => r.Beside who
  | .standardize who _ _ _ => r.Beside who
  | .evict _ => True
  | .clear => True

namespace Cache

/-- The cache after something has happened to it. -/
def next (c : Cache) : Happening → Cache
  | .resolve who deadline category raw => ((who.resolve deadline category raw).run c).2
  | .standardize who deadline category raw => ((who.standardize deadline category raw).run c).2
  | .evict kept => c.evict kept
  | .clear => c.clear

/-- The cache after what happened to it in order. -/
def after (c : Cache) (happenings : List Happening) : Cache :=
  happenings.foldl next c

namespace Faithful

variable {r who : Resolver} {c : Cache}

/-- A call leaves a cache faithful to the resolver of a session. What it keeps is right if the call is the
resolver's own, and stands under another scope if it is not. -/
theorem resolve (h : c.Faithful r) (hwho : r.Beside who) (deadline : Deadline) (category raw : String) :
    ((who.resolve deadline category raw).run c).2.Faithful r := by
  intro e he hscope
  rcases Resolver.mem_entries_run_resolve he with hold | ⟨-, hkept, rfl⟩
  · exact h e hold hscope
  · rcases hwho with ⟨exactOutage, listOutage, rfl⟩ | hother
    · show ((r.during exactOutage listOutage).answer deadline category (Text.fold raw)).value
        = (r.keyAnswer category (Text.fold raw)).value
      rw [Resolver.answer_of_not_degraded hkept, Resolver.keyAnswer_during]
    · exact absurd hscope hother

theorem standardize (h : c.Faithful r) (hwho : r.Beside who) (deadline : Deadline)
    (category raw : String) : ((who.standardize deadline category raw).run c).2.Faithful r := by
  unfold Resolver.standardize
  split
  · exact h
  · exact h.resolve hwho deadline category raw

/-- Nothing that may happen during a session makes the cache unfaithful. -/
theorem next (h : c.Faithful r) {happening : Happening} (hduring : happening.During r) :
    (c.next happening).Faithful r := by
  cases happening with
  | resolve who deadline category raw => exact h.resolve hduring deadline category raw
  | standardize who deadline category raw => exact h.standardize hduring deadline category raw
  | evict kept => exact h.of_subset fun _ => mem_entries_of_mem_evict
  | clear => exact .of_entries_eq_nil (entries_clear c)

/-- A cache stays faithful throughout a session. -/
theorem after (h : c.Faithful r) {happenings : List Happening}
    (hduring : ∀ x ∈ happenings, x.During r) : (c.after happenings).Faithful r := by
  induction happenings generalizing c with
  | nil => exact h
  | cons x xs ih =>
      rw [List.forall_mem_cons] at hduring
      exact ih (h.next hduring.1) hduring.2

end Faithful

end Cache

/-! ## Sessions -/

/-- **Standard values are stable.** A session starts with nothing under the scope of a resolver whose store
answers. Once a spelling has been standardized, whatever has happened before, its standard value is its own
standard value, whatever happens in between. Cities are left out, since they are written with capitals. -/
theorem Resolver.standardize_stable {r : Resolver} (h : r.Answers) {category : String}
    (hcity : category ≠ Category.city.name) (raw : String) {cache : Cache}
    (hfresh : ∀ e ∈ cache.entries, e.1.scope ≠ r.scope) {before between : List Happening}
    (hbefore : ∀ x ∈ before, x.During r) (hbetween : ∀ x ∈ between, x.During r) :
    let once := (r.standardize .none category raw).run (cache.after before)
    ((r.standardize .none category once.1).run (once.2.after between)).1 = once.1 := by
  intro once
  have hstart : cache.Faithful r := fun e he hscope => absurd hscope (hfresh e he)
  have hthen : (cache.after before).Faithful r := hstart.after hbefore
  have hown : r.Beside r := Or.inl ⟨r.store.exactOutage, r.store.listOutage, rfl⟩
  have hlater : (once.2.after between).Faithful r :=
    (hthen.standardize hown .none category raw).after hbetween
  have hvalue : once.1 = r.standardOf category raw :=
    (yields_standardize h category raw _ hthen).1
  rw [hvalue, (yields_standardize h category _ _ hlater).1]
  exact standardOf_standardOf h hcity raw

/-- A shop that knows one product category. -/
def shop : Resolver :=
  ⟨⟨.memory [⟨"product_category", "electronics", "Electronics"⟩], none, none⟩, "shop", defaultThreshold⟩

/-- The shop comes too late to ask its store, another one asks for the same spelling, and all entries go. -/
def busyDay : List Happening := [
  .resolve shop .passed "product_category" "electronicss",
  .standardize { Resolver.standalone with scope := "other" } .none "product_category" "electronicss",
  .resolve shop .none "gender" "nữ",
  .clear,
  .resolve shop .none "product_category" "Electronics"]

/-- A similar spelling gets its standard value, which stays what it is. -/
theorem Resolver.standardize_stable_shop :
    shop.Answers ∧ "product_category" ≠ Category.city.name ∧
    (∀ e ∈ Cache.standard.entries, e.1.scope ≠ shop.scope) ∧ (∀ x ∈ busyDay, x.During shop) ∧
    let once := (shop.standardize .none "product_category" "electronicss").run
      (Cache.standard.after busyDay)
    once.1 = "Electronics" ∧
      ((shop.standardize .none "product_category" "Electronics").run (once.2.after busyDay)).1
        = "Electronics" := by
  have hanswers : shop.Answers := ⟨rfl, rfl⟩
  have hcity : "product_category" ≠ Category.city.name := by decide
  have hfresh : ∀ e ∈ Cache.standard.entries, e.1.scope ≠ shop.scope :=
    fun e he => by simp [Cache.standard] at he
  have hown : shop.Beside shop := Or.inl ⟨none, none, rfl⟩
  have hduring : ∀ x ∈ busyDay, x.During shop := by
    simp only [busyDay, List.forall_mem_cons, Happening.During, hown, true_and]
    exact ⟨Or.inr (by decide), fun x hx => nomatch hx⟩
  have honce : ((shop.standardize .none "product_category" "electronicss").run
      (Cache.standard.after busyDay)).1 = "Electronics" := by decide +kernel
  have hstable := standardize_stable hanswers hcity "electronicss" hfresh hduring hduring
  dsimp only at hstable
  rw [honce] at hstable
  exact ⟨hanswers, hcity, hfresh, hduring, honce, hstable⟩

end Audience.Mapping
