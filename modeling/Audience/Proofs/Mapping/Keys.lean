import Audience.Proofs.Mapping.Interchange
import Audience.Proofs.Text.Fold

set_option autoImplicit false

/-! # Search keys in use

A spelling becomes a search key more than once on its way: when a record is made of it, when the record is
put into a store, and when it is looked for. Search keys are their own search keys, so the later times change
nothing. A record is found under the key that it was made with (`Store.Lists.exact_insert_self`), a key is
resolved as the spelling is (`Resolver.resolveDetailed_fold`), and an answer that nobody knew is asked for
again under the same key (`searchKey_kept`). -/

namespace Audience.Mapping

/-! ## In stores -/

@[simp] theorem Record.folded_folded (x : Record) : x.folded.folded = x.folded := by
  simp only [Record.folded, Text.fold_fold]

namespace Store

/-- A record that is under its search key already is put into a store as the record that it was made of. -/
theorem insert_folded (s : Store) (x : Record) : s.insert x.folded = s.insert x := by
  unfold insert
  simp only [Record.folded_folded]

/-- A record is found under the search key of its spelling. -/
theorem Lists.exact_insert_self {s : Store} {records : List Record} (h : s.Lists records) (x : Record) :
    (s.insert x).exact x.category (Text.fold x.input) = answering s.exactOutage (some x.standard) := by
  have hkey : x.folded.key = (x.category, Text.fold x.input) := by
    simp only [Record.key, Record.folded]
  rw [exact_eq, exactOutage_insert, (h.insert x).mapped?_eq, find?_insert, if_pos hkey,
    Record.folded_standard]

end Store

/-! ## In resolvers -/

/-- What the rules pass through is the key itself. -/
theorem ruleAnswer_of_passThrough {category key : String} {degraded : Bool}
    (h : (ruleAnswer category key degraded).source = .passThrough) :
    (ruleAnswer category key degraded).value = key := by
  unfold ruleAnswer at *
  split at h
  · simp at h
  · rfl

namespace Resolver

variable (r : Resolver)

/-- A search key is resolved as the spelling that it is the key of. -/
theorem resolveDetailed_fold (deadline : Deadline) (category raw : String) :
    r.resolveDetailed deadline category (Text.fold raw) = r.resolveDetailed deadline category raw := by
  unfold resolveDetailed
  rw [Text.fold_fold]

variable {r}

/-- What the records say is no key that was passed through. -/
theorem source_of_recorded? {category key value : String} {source : Source}
    (h : r.recorded? category key = some (value, source)) : source ≠ .passThrough := by
  unfold recorded? at h
  split at h
  · obtain ⟨-, rfl⟩ := Prod.mk.inj (Option.some.inj h)
    simp
  · obtain ⟨found, -, heq⟩ := Option.map_eq_some_iff.1 h
    obtain ⟨-, rfl⟩ := Prod.mk.inj heq
    simp

theorem answer_of_passThrough {deadline : Deadline} {category key : String}
    (h : (r.answer deadline category key).source = .passThrough) :
    (r.answer deadline category key).value = key := by
  unfold answer at *
  rcases r.askStore_eq_or deadline category key with hask | hask
  · rw [hask] at h ⊢
    cases hrecorded : r.recorded? category key with
    | some found =>
        rw [hrecorded] at h
        exact absurd h (source_of_recorded? hrecorded)
    | none =>
        rw [hrecorded] at h
        exact ruleAnswer_of_passThrough h
  · rw [hask] at h ⊢
    exact ruleAnswer_of_passThrough h

/-- A value that is passed through is the search key of its spelling. -/
theorem value_of_passThrough {deadline : Deadline} {category raw : String} {cache : Cache}
    (h : ((r.resolveDetailed deadline category raw).run cache).1.source = .passThrough) :
    ((r.resolveDetailed deadline category raw).run cache).1.value = Text.fold raw := by
  simp only [StateT.run, resolveDetailed] at *
  cases hempty : (Text.fold raw).isEmpty with
  | true => rw [if_pos rfl]
  | false =>
      rw [hempty, if_neg Bool.false_ne_true] at h
      rw [if_neg Bool.false_ne_true]
      rcases hget : cache.get (r.cacheKey category (Text.fold raw)) with ⟨_ | value, cache'⟩
      · rw [hget] at h
        exact answer_of_passThrough h
      · rw [hget] at h
        simp at h

end Resolver

/-- **Search keys stay what they are.** The search key of a spelling is its own search key. So a record that
was made with it is put into a store and found there under it, and resolving it is resolving the spelling:
once more with the same answer out of the same entry of the cache. That is what happens to a value that nobody
knew and that was passed through, whenever it is resolved again. -/
theorem searchKey_kept (raw : String) :
    Text.fold (Text.fold raw) = Text.fold raw ∧
    (∀ (s : Store) (category standard : String),
      let x : Record := ⟨category, raw, standard⟩
      s.insert x.folded = s.insert x ∧
      ∀ records, s.Lists records → (s.insert x.folded).exact category (Text.fold raw)
        = Store.answering s.exactOutage (some standard)) ∧
    ∀ (r : Resolver) (category : String),
      (∀ deadline, r.resolveDetailed deadline category (Text.fold raw)
        = r.resolveDetailed deadline category raw) ∧
      ∀ deadline cache,
        let once := ((r.resolveDetailed deadline category raw).run cache).1
        once.source = .passThrough → ∀ later, r.resolveDetailed later category once.value
          = r.resolveDetailed later category raw := by
  refine ⟨Text.fold_fold raw, ?stores, ?resolvers⟩
  case stores =>
    intro s category standard x
    refine ⟨s.insert_folded x, fun records h => ?_⟩
    rw [s.insert_folded x]
    exact h.exact_insert_self x
  case resolvers =>
    intro r category
    refine ⟨fun deadline => r.resolveDetailed_fold deadline category raw, ?_⟩
    intro deadline cache once hpassed later
    rw [Resolver.value_of_passThrough hpassed, r.resolveDetailed_fold]

/-- A spelling with blanks, capitals and marks. -/
def footballBoots : String :=
  " Giày  ĐÁ Bóng "

/-- No rule knows the spelling, so its key is passed through and resolved again as the spelling is. A record of
it is found under that key. -/
theorem searchKey_kept_footballBoots :
    let once :=
      ((Resolver.standalone.resolveDetailed .none "product_category" footballBoots).run .standard).1
    once.source = .passThrough ∧ once.value = "giay da bong" ∧
      Resolver.standalone.resolveDetailed .passed "product_category" "giay da bong"
        = Resolver.standalone.resolveDetailed .passed "product_category" footballBoots ∧
      (Store.empty.insert ⟨"product_category", "giay da bong", "Sports"⟩).exact "product_category"
        "giay da bong" = .ok (some "Sports") := by
  intro once
  have hpassed : once.source = .passThrough := by decide +kernel
  have hvalue : once.value = "giay da bong" := by decide +kernel
  have hkey : Text.fold footballBoots = "giay da bong" := by decide +kernel
  have hempty : Store.empty.Lists [] := ⟨rfl, List.nodup_nil⟩
  obtain ⟨-, hstores, hresolvers⟩ := searchKey_kept footballBoots
  have hfound := (hstores .empty "product_category" "Sports").2 [] hempty
  have hagain := (hresolvers .standalone "product_category").2 .none .standard hpassed .passed
  rw [Record.folded, hkey] at hfound
  rw [hvalue] at hagain
  exact ⟨hpassed, hvalue, hagain, hfound⟩

end Audience.Mapping
