import Audience.Proofs.Mapping.Standing
import Audience.Proofs.Text.Fold
import Audience.Proofs.Text.Title

set_option autoImplicit false

/-! # Standard values once more

Over a faithful cache a resolver whose store answers gives every spelling one value
(`Resolver.standardOf`), whatever the cache holds. Taken for a spelling itself, this value stands for
itself: a standard value is left alone, and a search key that nobody knows is its own search key. The
one exception are cities that nobody knows. They are written with capitals, and a capital may have
another search key than its letter (`standardOf_standardOf_iff`). -/

namespace Audience.Mapping

/-! ## Steps over faithful caches -/

/-- What a resolver brings into a cache: under its scope, the answer to a search key. -/
def Resolver.Keeps (r : Resolver) (e : CacheKey × String) : Prop :=
  ∃ category raw, (Text.fold raw).isEmpty = false ∧
    e = (r.cacheKey category (Text.fold raw), (r.standing category raw).value)

theorem Resolver.Keeps.value_eq {r : Resolver} {e : CacheKey × String} (h : r.Keeps e) :
    e.2 = (r.keyAnswer e.1.category e.1.input).value := by
  obtain ⟨category, raw, hkey, rfl⟩ := h
  simp [Resolver.standing, hkey, Resolver.cacheKey]

/-- A cache that a resolver adds to stays faithful to it. -/
theorem Cache.Faithful.of_keeps {r : Resolver} {c c' : Cache} (h : c.Faithful r)
    (hnew : ∀ e ∈ c'.entries, e ∈ c.entries ∨ r.Keeps e) : c'.Faithful r := by
  intro e he hscope
  rcases hnew e he with hold | hkeeps
  · exact h e hold hscope
  · exact hkeeps.value_eq

/-- A step gives one value over every faithful cache, and brings in nothing but what the resolver
keeps. -/
def Yields {α : Type} (r : Resolver) (m : StateM Cache α) (x : α) : Prop :=
  ∀ c : Cache, c.Faithful r →
    (m.run c).1 = x ∧ ∀ e ∈ (m.run c).2.entries, e ∈ c.entries ∨ r.Keeps e

namespace Yields

variable {α β : Type} {r : Resolver}

theorem pure (x : α) : Yields r (Pure.pure x) x :=
  fun _ _ => ⟨rfl, fun _ he => Or.inl he⟩

theorem bind {m : StateM Cache α} {f : α → StateM Cache β} {x : α} {y : β} (hm : Yields r m x)
    (hf : Yields r (f x) y) : Yields r (m >>= f) y := by
  intro c hc
  obtain ⟨hx, hnew⟩ := hm c hc
  have hrun : (m >>= f).run c = (f (m.run c).1).run (m.run c).2 := rfl
  rw [hrun, hx]
  obtain ⟨hy, hnew'⟩ := hf _ (hc.of_keeps hnew)
  refine ⟨hy, fun e he => ?_⟩
  rcases hnew' e he with hold | hkeeps
  · exact hnew e hold
  · exact Or.inr hkeeps

end Yields

/-! ## Known and unknown search keys -/

@[simp] theorem ruleSet?_name (c : Category) : ruleSet? c.name = rulesOf c := by
  cases c <;> rfl

/-- What the rules of a category make of a search key that none of them covers. -/
def unknownValue (c : Category) (key : String) : String :=
  if (rulesOf c).any (·.titled) then Text.title key else key

/-- Only cities are written with capitals. -/
theorem unknownValue_of_ne_city {c : Category} (h : c ≠ .city) (key : String) :
    unknownValue c key = key := by
  cases c with
  | city => exact absurd rfl h
  | _ => rfl

theorem unknownValue_city (key : String) : unknownValue .city key = Text.title key := rfl

@[simp] theorem unknownValue_empty (c : Category) : unknownValue c "" = "" := by
  cases c <;> rfl

/-- The rules cover a key, or they leave it to their category. -/
theorem ruleAnswer_value (c : Category) (key : String) (degraded : Bool) :
    (∃ set rule, rulesOf c = some set ∧ rule ∈ set.rules ∧
      (ruleAnswer c.name key degraded).value = rule.standard ∧ rule.covers key = true) ∨
    ((∀ set, rulesOf c = some set → ∀ rule ∈ set.rules, rule.covers key = false) ∧
      (ruleAnswer c.name key degraded).value = unknownValue c key) := by
  unfold ruleAnswer unknownValue
  rw [ruleSet?_name]
  cases hset : rulesOf c with
  | none => exact Or.inr ⟨fun set h => by simp at h, rfl⟩
  | some set =>
      cases hrule : set.rules.find? (·.covers key) with
      | some rule =>
          refine Or.inl ⟨set, rule, rfl, List.mem_of_find?_eq_some hrule, ?_, List.find?_some hrule⟩
          simp [RuleSet.apply, hrule]
      | none =>
          refine Or.inr ⟨fun set' h rule hmem => ?_, ?_⟩
          · obtain rfl := Option.some.inj h
            simpa using List.find?_eq_none.1 hrule rule hmem
          · cases htitled : set.titled <;> simp [RuleSet.apply, hrule, htitled]

namespace Resolver

variable {r : Resolver}

/-- Neither the records nor the rules know a search key. -/
structure Unknown (r : Resolver) (c : Category) (key : String) : Prop where
  unrecorded : r.recorded? c.name key = none
  uncovered : ∀ set, rulesOf c = some set → ∀ rule ∈ set.rules, rule.covers key = false

/-- Whether a value is standard, when every question is answered. -/
theorem isStandard_none (h : r.Answers) (category value : String) :
    r.isStandard .none category value
      = ((ruleSet? category).any (·.isStandard value)
        || (r.store.recordsOf category).any (·.standard == value)) := by
  have hstored : isStandard.stored r .none category value
      = (r.store.recordsOf category).any (·.standard == value) := by
    simp [isStandard.stored, Deadline.none, Store.hasStandard_eq, h.2, Store.answering]
  unfold isStandard
  rw [hstored]
  cases ruleSet? category <;> simp

theorem isStandard_of_record (h : r.Answers) {category : String} {record : Record}
    (hmem : record ∈ r.store.recordsOf category) :
    r.isStandard .none category record.standard = true := by
  rw [isStandard_none h, Bool.or_eq_true]
  exact Or.inr (List.any_eq_true.2 ⟨record, hmem, by simp⟩)

theorem isStandard_of_rule (h : r.Answers) {category : String} {set : RuleSet} {rule : Rule}
    (hset : ruleSet? category = some set) (hmem : rule ∈ set.rules) :
    r.isStandard .none category rule.standard = true := by
  rw [isStandard_none h, Bool.or_eq_true, hset]
  exact Or.inl (List.any_eq_true.2 ⟨rule, hmem, by simp⟩)

/-- What the records or the rules say is a standard value; what they do not know is left to the
category. -/
theorem isStandard_keyAnswer_or (h : r.Answers) (c : Category) (key : String) :
    r.isStandard .none c.name (r.keyAnswer c.name key).value = true ∨
      (r.Unknown c key ∧ (r.keyAnswer c.name key).value = unknownValue c key) := by
  unfold keyAnswer
  cases hrec : r.recorded? c.name key with
  | some found =>
      obtain ⟨record, hmem, hvalue⟩ := exists_record_of_recorded? hrec
      refine Or.inl ?_
      show r.isStandard .none c.name found.1 = true
      rw [← hvalue]
      exact isStandard_of_record h hmem
  | none =>
      rcases ruleAnswer_value c key false with ⟨set, rule, hset, hmem, hvalue, _⟩ | ⟨hrules, hvalue⟩
      · refine Or.inl ?_
        rw [hvalue]
        exact isStandard_of_rule h ((ruleSet?_name c).trans hset) hmem
      · exact Or.inr ⟨⟨hrec, hrules⟩, hvalue⟩

theorem keyAnswer_of_unknown {c : Category} {key : String} (h : r.Unknown c key) :
    (r.keyAnswer c.name key).value = unknownValue c key := by
  unfold keyAnswer
  rw [h.unrecorded]
  rcases ruleAnswer_value c key false with ⟨set, rule, hset, hmem, _, hcovers⟩ | ⟨_, hvalue⟩
  · rw [h.uncovered set hset rule hmem] at hcovers
    simp at hcovers
  · exact hvalue

/-! ## The value of a spelling -/

/-- The standard value of a spelling: itself if it is one already, else what it stands for. -/
def standardOf (r : Resolver) (category raw : String) : String :=
  if r.isStandard .none category raw then raw else (r.standing category raw).value

@[simp] theorem keyAnswer_degraded (category key : String) :
    (r.keyAnswer category key).degraded = false := by
  unfold keyAnswer
  split
  · rfl
  · exact ruleAnswer_degraded category key false

theorem run_resolve (deadline : Deadline) (category raw : String) (c : Cache) :
    (r.resolve deadline category raw).run c
      = (((r.resolveDetailed deadline category raw).run c).1.value,
        ((r.resolveDetailed deadline category raw).run c).2) := by
  have hrun : ∀ m : StateM Cache Resolution, (do return (← m).value : StateM Cache String).run c
      = ((m.run c).1.value, (m.run c).2) := fun _ => rfl
  rw [resolve, hrun]

/-- What resolving leaves in the cache: what was there before, and the answer to a search key unless it is
degraded. -/
theorem mem_entries_run_resolve {deadline : Deadline} {category raw : String} {c : Cache}
    {e : CacheKey × String} (he : e ∈ ((r.resolve deadline category raw).run c).2.entries) :
    e ∈ c.entries ∨ ((Text.fold raw).isEmpty = false ∧
      (r.answer deadline category (Text.fold raw)).degraded = false ∧
      e = (r.cacheKey category (Text.fold raw),
        (r.answer deadline category (Text.fold raw)).value)) := by
  rw [run_resolve] at he
  simp only [StateT.run, resolveDetailed] at he
  cases hkey : (Text.fold raw).isEmpty with
  | true => exact Or.inl (by simpa [hkey] using he)
  | false =>
      simp only [hkey, Bool.false_eq_true, if_false] at he
      have hhave : ∀ e ∈ (c.get (r.cacheKey category (Text.fold raw))).2.entries, e ∈ c.entries :=
        fun e => Cache.mem_entries_of_mem_get
      cases hget : c.get (r.cacheKey category (Text.fold raw)) with
      | mk found c' =>
          rw [hget] at he hhave
          cases found with
          | some value => exact Or.inl (hhave e he)
          | none =>
              cases hd : (r.answer deadline category (Text.fold raw)).degraded with
              | true => exact Or.inl (hhave e (by simpa [hd] using he))
              | false =>
                  simp only [hd, Bool.false_eq_true, if_false] at he
                  rcases Cache.eq_or_mem_entries_of_mem_put he with rfl | hmem
                  · exact Or.inr ⟨rfl, rfl, rfl⟩
                  · exact Or.inl (hhave e hmem)

/-- Resolving over a faithful cache gives what the spelling stands for. -/
theorem yields_resolve (h : r.Answers) (category raw : String) :
    Yields r (r.resolve .none category raw) (r.standing category raw).value := by
  intro c hc
  refine ⟨?_, fun e he => ?_⟩
  · rw [run_resolve]
    simp only [StateT.run, resolveDetailed, standing]
    cases hkey : (Text.fold raw).isEmpty with
    | true => rfl
    | false =>
        simp only [Bool.false_eq_true, if_false]
        cases hget : c.get (r.cacheKey category (Text.fold raw)) with
        | mk found c' =>
            cases found with
            | some value => exact hc.value_eq_of_get (by rw [hget])
            | none => rw [answer_none h]
  · rcases mem_entries_run_resolve he with hold | ⟨hkey, -, rfl⟩
    · exact Or.inl hold
    · exact Or.inr ⟨category, raw, hkey, by simp [standing, hkey, answer_none h]⟩

/-- Standardizing over a faithful cache gives the standard value. -/
theorem yields_standardize (h : r.Answers) (category raw : String) :
    Yields r (r.standardize .none category raw) (r.standardOf category raw) := by
  unfold standardize standardOf
  split
  · exact .pure raw
  · exact yields_resolve h category raw

/-- Which values stand for themselves: standard ones, and those that are left to their category and
come back. -/
theorem standardOf_eq_self_iff (h : r.Answers) {c : Category} {value : String}
    (hvalue : Text.isAllBlank value = false) :
    r.standardOf c.name value = value ↔
      r.isStandard .none c.name value = true ∨
        (r.Unknown c (Text.fold value) ∧ unknownValue c (Text.fold value) = value) := by
  unfold standardOf
  by_cases hstd : r.isStandard .none c.name value = true
  · simp [hstd]
  · rw [if_neg hstd]
    simp only [hstd, Bool.false_eq_true, false_or]
    by_cases hkey : (Text.fold value).isEmpty = true
    · -- Nothing is left of the value, which is not blank itself.
      have hempty : Text.fold value = "" := by simpa using hkey
      have hne : "" ≠ value := by
        rintro rfl
        simp [Text.isAllBlank] at hvalue
      simp [standing, hempty, hne]
    · simp only [standing, hkey, Bool.false_eq_true, if_false]
      constructor
      · intro heq
        rcases isStandard_keyAnswer_or h c (Text.fold value) with hs | ⟨hunknown, hv⟩
        · rw [heq] at hs
          exact absurd hs hstd
        · exact ⟨hunknown, hv.symm.trans heq⟩
      · rintro ⟨hunknown, heq⟩
        rw [keyAnswer_of_unknown hunknown, heq]

/-! ## Twice the same -/

/-- A city that neither the records nor the rules know, so that it is written with capitals. -/
structure Capitalized (r : Resolver) (raw : String) : Prop where
  notStandard : r.isStandard .none Category.city.name raw = false
  hasKey : (Text.fold raw).isEmpty = false
  unknown : r.Unknown .city (Text.fold raw)

/-- A city that is left as it is: a standard value, or one that nobody knows and that has its capitals
already. -/
def StaysCapitalized (r : Resolver) (city : String) : Prop :=
  r.isStandard .none Category.city.name city = true ∨
    (r.Unknown .city (Text.fold city) ∧ Text.title (Text.fold city) = city)

/-- The condition under which the standard value of a spelling is its own standard value. -/
def Settles (r : Resolver) (c : Category) (raw : String) : Prop :=
  c = .city → r.Capitalized raw → r.StaysCapitalized (Text.title (Text.fold raw))

/-- **When a standard value is its own standard value**: whenever it is not a city written with capitals
that stand for something else than their letters. -/
theorem standardOf_standardOf_iff (h : r.Answers) (c : Category) (raw : String) :
    (Text.isAllBlank (r.standardOf c.name raw) = true ∨
      r.standardOf c.name (r.standardOf c.name raw) = r.standardOf c.name raw) ↔
    r.Settles c raw := by
  have hfixed : ∀ value, r.isStandard .none c.name value = true →
      r.standardOf c.name value = value := fun value hv => by simp [standardOf, hv]
  by_cases hstd : r.isStandard .none c.name raw = true
  · refine iff_of_true (Or.inr (by rw [hfixed raw hstd, hfixed raw hstd])) ?_
    rintro rfl hcap
    rw [hcap.notStandard] at hstd
    simp at hstd
  by_cases hkey : (Text.fold raw).isEmpty = true
  · refine iff_of_true (Or.inl ?_) ?_
    · have hempty : Text.fold raw = "" := by simpa using hkey
      simp [standardOf, hstd, standing, hempty, Text.isAllBlank]
    · rintro rfl hcap
      rw [hcap.hasKey] at hkey
      simp at hkey
  have hvalue : r.standardOf c.name raw = (r.keyAnswer c.name (Text.fold raw)).value := by
    simp [standardOf, hstd, standing, hkey]
  rw [Bool.not_eq_true] at hstd hkey
  have hblank : Text.isAllBlank (Text.fold raw) = false := by
    cases hb : Text.isAllBlank (Text.fold raw) with
    | false => rfl
    | true => simp [Text.fold_eq_of_isAllBlank_fold hb] at hkey
  rcases isStandard_keyAnswer_or h c (Text.fold raw) with hs | ⟨hunknown, hv⟩
  · refine iff_of_true (Or.inr ?_) ?_
    · rw [hvalue, hfixed _ hs]
    · rintro rfl hcap
      rw [keyAnswer_of_unknown hcap.unknown, unknownValue_city] at hs
      exact Or.inl hs
  · rw [hvalue, hv]
    by_cases hc : c = .city
    · subst hc
      have htitle := Text.isAllBlank_title hblank
      rw [unknownValue_city, htitle, standardOf_eq_self_iff h htitle, unknownValue_city]
      simp only [Bool.false_eq_true, false_or]
      constructor
      · exact fun hstays _ _ => hstays
      · exact fun hsettles => hsettles rfl ⟨hstd, hkey, hunknown⟩
    · -- The value is the search key, which is its own search key.
      rw [unknownValue_of_ne_city hc, hblank, standardOf_eq_self_iff h hblank, Text.fold_fold]
      refine iff_of_true (Or.inr (Or.inr ⟨hunknown, unknownValue_of_ne_city hc _⟩)) ?_
      exact fun hcity => absurd hcity hc

end Resolver

end Audience.Mapping
