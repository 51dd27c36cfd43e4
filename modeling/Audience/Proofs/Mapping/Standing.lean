import Audience.Mapping.Resolver
import Audience.Proofs.Mapping.Cache

set_option autoImplicit false

/-! # What a spelling stands for

`Resolver.standing` is the answer that the records of a store and the rules give to a spelling, with no
cache and nothing out of order: the exact record first, then the most similar one, then the rules, then
the search key itself. Every answer of `Resolver.answer` is either that one or, if the store could not
be asked, the one of the rules alone. A cache is `Faithful` to a resolver when the entries under its
scope hold only such answers, and every operation of the resolver keeps it so. -/

namespace Audience.Mapping

/-! ## The records of a store -/

namespace Store

/-- The standard value that the records give to a search key, whatever is out of order. -/
def mapped? (category key : String) (s : Store) : Option String :=
  match s.backing with
  | .memory records => find? category key records
  | .database table => table.exact category key

/-- The records of a category in the order in which they are compared. -/
def recordsOf (category : String) (s : Store) : List Record :=
  match s.backing with
  | .memory records => ofCategory category records
  | .database table => table.allFor category

theorem exact_eq (category key : String) (s : Store) :
    s.exact category key = answering s.exactOutage (s.mapped? category key) := rfl

theorem allFor_eq (category : String) (s : Store) :
    s.allFor category = answering s.listOutage (s.recordsOf category) := rfl

end Store

/-- The order of the rows plays no part in which records there are. -/
theorem Table.mem_allFor {category : String} {t : Table} {r : Record} :
    r ∈ t.allFor category ↔ ∃ row ∈ t.rows, row.record = r ∧ r.category = category := by
  simp only [allFor, List.mem_map, List.mem_mergeSort, List.mem_filter, beq_iff_eq]
  constructor
  · rintro ⟨row, ⟨hrow, hc⟩, rfl⟩
    exact ⟨row, hrow, rfl, hc⟩
  · rintro ⟨row, hrow, rfl, hc⟩
    exact ⟨row, ⟨hrow, hc⟩, rfl⟩

namespace Store

/-- Asking for a standard value looks through the records of the category. -/
theorem hasStandard_eq (category value : String) (s : Store) :
    s.hasStandard category value
      = answering s.listOutage ((s.recordsOf category).any (·.standard == value)) := by
  obtain ⟨backing, exactOutage, listOutage⟩ := s
  cases backing with
  | memory records => cases listOutage <;> rfl
  | database table =>
      have hany : table.hasStandard category value
          = (table.allFor category).any (·.standard == value) := by
        rw [Bool.eq_iff_iff]
        simp only [Table.hasStandard, List.any_eq_true, Bool.and_eq_true, beq_iff_eq,
          Table.mem_allFor]
        constructor
        · rintro ⟨row, hrow, hc, hv⟩
          exact ⟨row.record, ⟨row, hrow, rfl, hc⟩, hv⟩
        · rintro ⟨_, ⟨row, hrow, rfl, hc⟩, hv⟩
          exact ⟨row, hrow, hc, hv⟩
      simp only [hasStandard, recordsOf, hany]

/-- The record behind an exact answer is one of its category. -/
theorem exists_record_of_mapped? {category key value : String} {s : Store}
    (h : s.mapped? category key = some value) :
    ∃ r ∈ s.recordsOf category, r.standard = value := by
  obtain ⟨backing, exactOutage, listOutage⟩ := s
  cases backing with
  | memory records =>
      simp only [mapped?, find?, Option.map_eq_some_iff] at h
      obtain ⟨r, hr, rfl⟩ := h
      have hcat := List.find?_some hr
      simp only [Bool.and_eq_true] at hcat
      exact ⟨r, List.mem_filter.2 ⟨List.mem_of_find?_eq_some hr, hcat.1⟩, rfl⟩
  | database table =>
      simp only [mapped?, Table.exact, Option.map_eq_some_iff] at h
      obtain ⟨row, hrow, rfl⟩ := h
      have hcat := List.find?_some hrow
      simp only [Bool.and_eq_true, beq_iff_eq] at hcat
      exact ⟨row.record, Table.mem_allFor.2
        ⟨row, List.mem_of_find?_eq_some hrow, rfl, hcat.1⟩, rfl⟩

end Store

/-- The best record is the best one so far or one of the list. -/
theorem mem_of_bestRecord {score : Record → Float} {best : Option (Float × Record)}
    {records : List Record} {found : Float × Record}
    (h : bestRecord score best records = some found) :
    best = some found ∨ found.2 ∈ records := by
  induction records generalizing best with
  | nil => exact Or.inl h
  | cons r rest ih =>
      simp only [bestRecord] at h
      -- Whichever record is the best one so far, it is `r` or was so before.
      have hstep : ∀ b : Option (Float × Record), bestRecord score b rest = some found →
          b = best ∨ b = some (score r, r) → best = some found ∨ found.2 ∈ r :: rest := by
        intro b hb hor
        rcases ih hb with hfound | hmem
        · rcases hor with rfl | rfl
          · exact Or.inl hfound
          · obtain rfl := Option.some.inj hfound
            exact Or.inr List.mem_cons_self
        · exact Or.inr (List.mem_cons_of_mem _ hmem)
      split at h
      · split at h
        · exact hstep _ h (Or.inr rfl)
        · exact hstep _ h (Or.inl rfl)
      · exact hstep _ h (Or.inr rfl)

/-- A record found by similarity is one of those compared. -/
theorem mem_of_fuzzyMatch {threshold : Float} {key : String} {records : List Record}
    {found : Float × Record} (h : fuzzyMatch threshold key records = some found) :
    found.2 ∈ records := by
  unfold fuzzyMatch at h
  split at h
  · next score r hbest =>
      split at h
      · obtain rfl := Option.some.inj h
        rcases mem_of_bestRecord hbest with hnone | hmem
        · exact absurd hnone (by simp)
        · exact hmem
      · simp at h
  · simp at h

/-! ## Answers without a cache -/

@[simp] theorem ruleAnswer_degraded (category key : String) (degraded : Bool) :
    (ruleAnswer category key degraded).degraded = degraded := by
  unfold ruleAnswer
  split <;> rfl

namespace Resolver

/-- What the records of the store say about a search key: the exact one, else the most similar. -/
def recorded? (r : Resolver) (category key : String) : Option (String × Source) :=
  match r.store.mapped? category key with
  | some value => some (value, .exact)
  | none => (fuzzyMatch r.threshold key (r.store.recordsOf category)).map
      fun found => (found.2.standard, .fuzzy found.1)

/-- The answer to a search key by the records of the store, then the rules, then the key itself. -/
def keyAnswer (r : Resolver) (category key : String) : Resolution :=
  match r.recorded? category key with
  | some (value, source) => ⟨value, source, false⟩
  | none => ruleAnswer category key false

/-- The answer to a spelling by the records of the store and the rules. Of a spelling without a search
key nothing is left to ask for. -/
def standing (r : Resolver) (category raw : String) : Resolution :=
  let key := Text.fold raw
  if key.isEmpty then ⟨key, .passThrough, false⟩ else r.keyAnswer category key

/-- The resolver while some questions to its store fail. -/
def during (exactOutage listOutage : Option Outage) (r : Resolver) : Resolver :=
  { r with store := { r.store with exactOutage, listOutage } }

/-- Every question to the store is answered. -/
def Answers (r : Resolver) : Prop :=
  r.store.exactOutage = none ∧ r.store.listOutage = none

@[simp] theorem keyAnswer_during (exactOutage listOutage : Option Outage) (r : Resolver)
    (category key : String) :
    (r.during exactOutage listOutage).keyAnswer category key = r.keyAnswer category key := rfl

/-- What the records say is the standard value of one of them. -/
theorem exists_record_of_recorded? {r : Resolver} {category key value : String} {source : Source}
    (h : r.recorded? category key = some (value, source)) :
    ∃ record ∈ r.store.recordsOf category, record.standard = value := by
  unfold recorded? at h
  split at h
  · next v hv =>
      simp only [Option.some.injEq, Prod.mk.injEq] at h
      obtain ⟨rfl, _⟩ := h
      exact Store.exists_record_of_mapped? hv
  · obtain ⟨found, hfound, heq⟩ := Option.map_eq_some_iff.1 h
    simp only [Prod.mk.injEq] at heq
    exact ⟨found.2, mem_of_fuzzyMatch hfound, heq.1⟩

/-- The store is asked in full, or it is not and nothing it may have said is used. -/
theorem askStore_eq_or (r : Resolver) (deadline : Deadline) (category key : String) :
    r.askStore deadline category key = (r.recorded? category key, false) ∨
      r.askStore deadline category key = (none, true) := by
  unfold askStore recorded?
  simp only [Store.exact_eq, Store.allFor_eq]
  split
  · exact Or.inr rfl
  · cases hexact : r.store.exactOutage with
    | some o => exact Or.inr rfl
    | none =>
        cases hmapped : r.store.mapped? category key with
        | some value => exact Or.inl rfl
        | none =>
            -- The list is asked for only now, and may fail or come too late on its own.
            simp only [Store.answering]
            split
            · exact Or.inr rfl
            · cases hlist : r.store.listOutage with
              | some o => exact Or.inr rfl
              | none =>
                  simp only
                  split
                  · next score record hfuzzy => exact Or.inl (by rw [hfuzzy]; rfl)
                  · next hfuzzy => exact Or.inl (by rw [hfuzzy]; rfl)

/-- A store that answers in time is asked in full. -/
theorem askStore_none {r : Resolver} (h : r.Answers) (category key : String) :
    r.askStore .none category key = (r.recorded? category key, false) := by
  obtain ⟨hexact, hlist⟩ := h
  unfold askStore recorded?
  simp only [Store.exact_eq, Store.allFor_eq, Deadline.none, hexact, hlist, Store.answering]
  cases r.store.mapped? category key with
  | some value => rfl
  | none =>
      simp only [Bool.false_eq_true, if_false]
      cases fuzzyMatch r.threshold key (r.store.recordsOf category) <;> rfl

/-- An answer that is not degraded is the one of the records and the rules. -/
theorem answer_of_not_degraded {r : Resolver} {deadline : Deadline} {category key : String}
    (h : (r.answer deadline category key).degraded = false) :
    r.answer deadline category key = r.keyAnswer category key := by
  unfold answer keyAnswer at *
  rcases r.askStore_eq_or deadline category key with hask | hask
  · rw [hask]
    split <;> simp_all
  · rw [hask] at h
    simp at h

/-- A degraded answer is the one of the rules alone. -/
theorem answer_of_degraded {r : Resolver} {deadline : Deadline} {category key : String}
    (h : (r.answer deadline category key).degraded = true) :
    r.answer deadline category key = ruleAnswer category key true := by
  unfold answer at *
  rcases r.askStore_eq_or deadline category key with hask | hask
  · rw [hask] at h
    split at h <;> simp_all
  · rw [hask]

/-- A store that answers in time gives the answer of its records and the rules. -/
theorem answer_none {r : Resolver} (h : r.Answers) (category key : String) :
    r.answer .none category key = r.keyAnswer category key := by
  unfold answer keyAnswer
  rw [askStore_none h]
  split <;> simp_all

end Resolver

/-! ## Faithful caches -/

/-- Under the scope of a resolver there are only answers of its records and the rules. -/
def Cache.Faithful (r : Resolver) (c : Cache) : Prop :=
  ∀ e ∈ c.entries, e.1.scope = r.scope → e.2 = (r.keyAnswer e.1.category e.1.input).value

namespace Cache.Faithful

variable {r : Resolver} {c : Cache}

/-- A cache whose entries were in a faithful one is faithful. -/
theorem of_subset {c' : Cache} (h : c.Faithful r) (hsub : ∀ e ∈ c'.entries, e ∈ c.entries) :
    c'.Faithful r :=
  fun e he => h e (hsub e he)

theorem of_entries_eq_nil (h : c.entries = []) : c.Faithful r := by
  intro e he
  simp [h] at he

/-- A look-up under the scope of a resolver finds its own answer. -/
theorem value_eq_of_get (h : c.Faithful r) {category key value : String}
    (hget : (c.get (r.cacheKey category key)).1 = some value) :
    value = (r.keyAnswer category key).value :=
  h _ (mem_entries_of_get hget) rfl

end Cache.Faithful

end Audience.Mapping
