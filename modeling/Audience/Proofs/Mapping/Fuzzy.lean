import Audience.Proofs.Mapping.Interchange
import Audience.Proofs.Number.Order
import Audience.Proofs.Text.Fold

set_option autoImplicit false

/-! # The first best record

Going over the records of a category keeps the first of those with the greatest score (`bestRecord_eq`), so the
answer of a store without an exact record is fuzzy when some record reaches the threshold, and then it is the
standard value of the first best record (`Resolver.fuzzy_first_best`). A record that is put into the store later
stands behind the others, and as long as it is not better than the best one, it changes no answer
(`Resolver.respond_insert`). -/

namespace Audience.Mapping

open Number (IsNumber isNumber_of_le)

/-! ## The best record -/

/-- A record that is better than all before it, and as good as all after it. -/
def FirstBest (score : Record → Float) (records : List Record) (best : Record) : Prop :=
  ∃ before after, records = before ++ best :: after ∧
    (∀ x ∈ before, score x < score best) ∧ ∀ x ∈ after, score x ≤ score best

section Best

variable {score : Record → Float} {records : List Record} {best other x : Record}

theorem firstBest_singleton (score : Record → Float) (x : Record) : FirstBest score [x] x :=
  ⟨[], [], rfl, List.forall_mem_nil _, List.forall_mem_nil _⟩

theorem FirstBest.mem (h : FirstBest score records best) : best ∈ records := by
  obtain ⟨before, after, rfl, -⟩ := h
  exact List.mem_append_right before List.mem_cons_self

/-- No record is better than the best one. -/
theorem FirstBest.le (h : FirstBest score records best) (hbest : IsNumber (score best))
    (hx : x ∈ records) : score x ≤ score best := by
  obtain ⟨before, after, rfl, hbefore, hafter⟩ := h
  rcases List.mem_append.1 hx with hx | hx
  · exact Number.Float.le_of_lt (hbefore x hx)
  · rcases List.mem_cons.1 hx with rfl | hx
    · exact hbest.le_refl
    · exact hafter x hx

/-- One more record is the best one if it is better than the best one before it. -/
theorem FirstBest.replaced (h : FirstBest score records best) (hbest : IsNumber (score best))
    (hx : score best < score x) : FirstBest score (records ++ [x]) x :=
  ⟨records, [], rfl, fun _ hy => Number.Float.lt_of_le_of_lt (h.le hbest hy) hx, List.forall_mem_nil _⟩

/-- One more record changes nothing if it is not better than the best one. -/
theorem FirstBest.kept (h : FirstBest score records best) (hx : score x ≤ score best) :
    FirstBest score (records ++ [x]) best := by
  obtain ⟨before, after, rfl, hbefore, hafter⟩ := h
  refine ⟨before, after ++ [x], by simp, hbefore, fun y hy => ?_⟩
  rcases List.mem_append.1 hy with hy | hy
  · exact hafter y hy
  · rwa [List.mem_singleton.1 hy]

/-- There is only one. -/
theorem FirstBest.unique (h : FirstBest score records best) (h' : FirstBest score records other)
    (hbest : IsNumber (score best)) (hother : IsNumber (score other)) : best = other := by
  obtain ⟨before, after, rfl, hbefore, hafter⟩ := h
  obtain ⟨before', after', hsplit, hbefore', hafter'⟩ := h'
  rcases List.append_eq_append_iff.1 hsplit with ⟨between, hfront, hback⟩ | ⟨between, hfront, hback⟩
  · cases between with
    | nil => exact (List.cons.inj hback).1
    | cons y between =>
        -- The best record is before the other one, which is not better.
        obtain ⟨rfl, rfl⟩ := List.cons.inj hback
        have hlt := hbefore' best (by simp [hfront])
        have hle := hafter other (by simp)
        exact absurd hlt ((hbest.not_lt_iff hother).2 hle)
  · cases between with
    | nil => exact (List.cons.inj hback).1.symm
    | cons y between =>
        obtain ⟨rfl, rfl⟩ := List.cons.inj hback
        have hlt := hbefore other (by simp [hfront])
        have hle := hafter' best (by simp)
        exact absurd hlt ((hother.not_lt_iff hbest).2 hle)

/-- Whatever records are still to come, the best one of those gone over is kept up to date. -/
theorem bestRecord_run {seen rest : List Record} (h : FirstBest score seen best)
    (hscores : ∀ x ∈ seen ++ rest, IsNumber (score x)) :
    ∃ found, bestRecord score (some (score best, best)) rest = some (score found, found) ∧
      FirstBest score (seen ++ rest) found := by
  induction rest generalizing seen best with
  | nil => exact ⟨best, rfl, by rwa [List.append_nil]⟩
  | cons x rest ih =>
      -- The next record is gone over now, and takes the place of the best one or leaves it there.
      have hsplit : seen ++ x :: rest = (seen ++ [x]) ++ rest := by simp
      have hbest : IsNumber (score best) := hscores best (List.mem_append_left _ h.mem)
      have hx : IsNumber (score x) := hscores x (by simp)
      rw [hsplit] at hscores ⊢
      by_cases hlt : score best < score x
      · rw [bestRecord, if_pos hlt]
        exact ih (h.replaced hbest hlt) hscores
      · rw [bestRecord, if_neg hlt]
        exact ih (h.kept ((hbest.not_lt_iff hx).1 hlt)) hscores

/-- Going over records finds the first best one. -/
theorem bestRecord_eq (hne : records ≠ []) (hscores : ∀ x ∈ records, IsNumber (score x)) :
    ∃ best, bestRecord score none records = some (score best, best) ∧ FirstBest score records best := by
  cases records with
  | nil => exact absurd rfl hne
  | cons x rest => exact bestRecord_run (firstBest_singleton score x) hscores

end Best

/-! ## Records that are similar enough -/

/-- How similar the spelling of a record is to a search key. -/
def Record.scoreFor (key : String) (x : Record) : Float :=
  similarity key (Text.fold x.input)

section Matches

variable {threshold score : Float} {key : String} {records : List Record} {best x : Record}

/-- The first best record is found if it reaches the threshold. -/
theorem fuzzyMatch_of_firstBest (hscores : ∀ x ∈ records, IsNumber (x.scoreFor key))
    (hbest : FirstBest (·.scoreFor key) records best) :
    fuzzyMatch threshold key records =
      if threshold ≤ best.scoreFor key then some (best.scoreFor key, best) else none := by
  obtain ⟨found, hfound, hfirst⟩ := bestRecord_eq (List.ne_nil_of_mem hbest.mem) hscores
  obtain rfl := hfirst.unique hbest (hscores found hfirst.mem) (hscores best hbest.mem)
  have hrun : bestRecord (fun r => similarity key (Text.fold r.input)) none records
      = some (found.scoreFor key, found) := hfound
  rw [fuzzyMatch, hrun]

/-- What is found is the first best record. -/
theorem fuzzyMatch_eq_some_iff (hscores : ∀ x ∈ records, IsNumber (x.scoreFor key)) :
    fuzzyMatch threshold key records = some (score, best) ↔
      FirstBest (·.scoreFor key) records best ∧ best.scoreFor key = score ∧ threshold ≤ score := by
  constructor
  · intro h
    have hne : records ≠ [] := List.ne_nil_of_mem (mem_of_fuzzyMatch h)
    obtain ⟨found, -, hfirst⟩ := bestRecord_eq hne hscores
    rw [fuzzyMatch_of_firstBest hscores hfirst] at h
    split at h
    · next hthreshold =>
      obtain ⟨rfl, rfl⟩ := Prod.mk.inj (Option.some.inj h)
      exact ⟨hfirst, rfl, hthreshold⟩
    · simp at h
  · rintro ⟨hfirst, rfl, hthreshold⟩
    rw [fuzzyMatch_of_firstBest hscores hfirst, if_pos hthreshold]

/-- Something is found if a record reaches the threshold, and only then. -/
theorem exists_fuzzyMatch_iff (hscores : ∀ x ∈ records, IsNumber (x.scoreFor key)) :
    (∃ score best, fuzzyMatch threshold key records = some (score, best)) ↔
      ∃ x ∈ records, threshold ≤ x.scoreFor key := by
  simp only [fuzzyMatch_eq_some_iff hscores]
  constructor
  · rintro ⟨_, best, hfirst, rfl, hthreshold⟩
    exact ⟨best, hfirst.mem, hthreshold⟩
  · rintro ⟨x, hx, hthreshold⟩
    obtain ⟨best, -, hfirst⟩ := bestRecord_eq (List.ne_nil_of_mem hx) hscores
    have hle := hfirst.le (hscores best hfirst.mem) hx
    exact ⟨_, best, hfirst, rfl, Number.Float.le_trans hthreshold hle⟩

/-- A record behind the others changes nothing if one of them is as good. -/
theorem fuzzyMatch_concat (hscores : ∀ x ∈ records, IsNumber (x.scoreFor key)) {other : Record}
    (hother : other ∈ records) (hnumber : IsNumber (x.scoreFor key))
    (hx : x.scoreFor key ≤ other.scoreFor key) :
    fuzzyMatch threshold key (records ++ [x]) = fuzzyMatch threshold key records := by
  obtain ⟨best, -, hfirst⟩ := bestRecord_eq (List.ne_nil_of_mem hother) hscores
  have hle := hfirst.le (hscores best hfirst.mem) hother
  have hscores' : ∀ y ∈ records ++ [x], IsNumber (y.scoreFor key) :=
    List.forall_mem_append.2 ⟨hscores, List.forall_mem_singleton.2 hnumber⟩
  rw [fuzzyMatch_of_firstBest hscores' (hfirst.kept (Number.Float.le_trans hx hle)),
    fuzzyMatch_of_firstBest hscores hfirst]

end Matches

/-! ## Fuzzy answers -/

namespace Resolver

/-- The answer to a spelling over a cache, when there is no deadline. -/
def respond (r : Resolver) (cache : Cache) (category raw : String) : Resolution :=
  ((r.resolveDetailed .none category raw).run cache).1

section

variable {r : Resolver} {category raw : String} {records : List Record} {cache : Cache}

/-- What is answered by the record that is similar enough or, if there is none, by the rules. -/
def answerOf (category key : String) : Option (Float × Record) → Resolution
  | some (score, best) => ⟨best.standard, .fuzzy score, false⟩
  | none => ruleAnswer category key false

/-- Only records give fuzzy answers. -/
theorem source_answerOf_iff {key : String} {found : Option (Float × Record)} {score : Float} :
    (answerOf category key found).source = .fuzzy score ↔ ∃ best, found = some (score, best) := by
  cases found with
  | none =>
      have hrule : (ruleAnswer category key false).source ≠ .fuzzy score := by
        unfold ruleAnswer
        split <;> simp
      simp [answerOf, hrule]
  | some found =>
      obtain ⟨top, best⟩ := found
      constructor
      · intro h
        obtain rfl : top = score := Source.fuzzy.inj h
        exact ⟨best, rfl⟩
      · rintro ⟨_, h⟩
        exact congrArg Source.fuzzy (congrArg Prod.fst (Option.some.inj h))

/-- Without a kept answer and an exact record, a record that is similar enough is looked for. -/
theorem respond_eq (hkey : (Text.fold raw).isEmpty = false)
    (hcache : (cache.get (r.cacheKey category (Text.fold raw))).1 = none)
    (hexact : r.store.exact category (Text.fold raw) = .ok none)
    (hlist : r.store.allFor category = .ok records) :
    r.respond cache category raw
      = answerOf category (Text.fold raw) (fuzzyMatch r.threshold (Text.fold raw) records) := by
  have hanswer : r.answer .none category (Text.fold raw)
      = answerOf category (Text.fold raw) (fuzzyMatch r.threshold (Text.fold raw) records) := by
    simp only [answer, askStore, hexact, hlist, Deadline.none, Bool.false_eq_true, if_false]
    cases fuzzyMatch r.threshold (Text.fold raw) records <;> rfl
  simp only [respond, StateT.run, resolveDetailed, hkey, Bool.false_eq_true, if_false]
  cases hget : cache.get (r.cacheKey category (Text.fold raw)) with
  | mk found cache' =>
      rw [hget] at hcache
      subst hcache
      exact hanswer

/-- A record that is put into the store changes no answer if it is about a new spelling, another one than that
which is asked for, and some record is as good. -/
theorem respond_insert (hkey : (Text.fold raw).isEmpty = false)
    (hcache : (cache.get (r.cacheKey category (Text.fold raw))).1 = none)
    (hexact : r.store.exact category (Text.fold raw) = .ok none)
    (hlist : r.store.allFor category = .ok records)
    (hscores : ∀ x ∈ records, IsNumber (x.scoreFor (Text.fold raw))) {all : List Record}
    (hall : r.store.Lists all) {x y : Record} (hnew : x.folded.key ∉ all.map Record.key)
    (hother : Text.fold x.input ≠ Text.fold raw) (hy : y ∈ records)
    (hle : x.scoreFor (Text.fold raw) ≤ y.scoreFor (Text.fold raw)) :
    { r with store := r.store.insert x }.respond cache category raw = r.respond cache category raw := by
  have hdifferent : x.folded.key ≠ (category, Text.fold raw) := by
    simp only [Record.key, Record.folded, ne_eq, Prod.mk.injEq, not_and]
    exact fun _ => hother
  have hexact' : (r.store.insert x).exact category (Text.fold raw) = .ok none :=
    (hall.exact_insert hdifferent).trans hexact
  have hmatch : fuzzyMatch r.threshold (Text.fold raw) (records ++ ofCategory category [x.folded])
      = fuzzyMatch r.threshold (Text.fold raw) records := by
    by_cases hcategory : x.folded.category = category
    · have hfolded : x.folded.scoreFor (Text.fold raw) = x.scoreFor (Text.fold raw) := by
        simp only [Record.scoreFor, Record.folded, Text.fold_fold]
      rw [← hfolded] at hle
      rw [ofCategory, List.filter_cons_of_pos (by simpa using hcategory), List.filter_nil]
      exact fuzzyMatch_concat hscores hy (Number.le_iff.1 hle).1 hle
    · rw [ofCategory, List.filter_cons_of_neg (by simpa using hcategory), List.filter_nil,
        List.append_nil]
  have hinserted : { r with store := r.store.insert x }.respond cache category raw
      = answerOf category (Text.fold raw)
        (fuzzyMatch r.threshold (Text.fold raw) (records ++ ofCategory category [x.folded])) :=
    respond_eq hkey hcache hexact' (hall.allFor_insert hnew hlist)
  rw [hinserted, respond_eq hkey hcache hexact hlist, hmatch]

/-- **Fuzzy matching picks the first best record.** Let no answer be kept for a search key and no record be about
it, and let the records of its category be as similar to it as numbers from 0 to 1 say. Then the answer is fuzzy if
some record reaches the threshold, and only then. A fuzzy answer is the standard value of the first best record, with
its score, and stays the same for every lower threshold. No answer is changed by a record that is put behind the
others, is not about the search key itself and is not better than the best one. -/
theorem fuzzy_first_best (hkey : (Text.fold raw).isEmpty = false)
    (hcache : (cache.get (r.cacheKey category (Text.fold raw))).1 = none)
    (hexact : r.store.exact category (Text.fold raw) = .ok none)
    (hlist : r.store.allFor category = .ok records)
    (hscores : ∀ x ∈ records, 0 ≤ x.scoreFor (Text.fold raw) ∧ x.scoreFor (Text.fold raw) ≤ 1) :
    ((∃ score, (r.respond cache category raw).source = .fuzzy score) ↔
      ∃ x ∈ records, r.threshold ≤ x.scoreFor (Text.fold raw)) ∧
    (∀ score, (r.respond cache category raw).source = .fuzzy score →
      (∃ best, FirstBest (·.scoreFor (Text.fold raw)) records best ∧
        r.respond cache category raw
          = ⟨best.standard, .fuzzy (best.scoreFor (Text.fold raw)), false⟩) ∧
      ∀ threshold ≤ r.threshold,
        { r with threshold }.respond cache category raw = r.respond cache category raw) ∧
    ∀ all, r.store.Lists all → ∀ x : Record, x.folded.key ∉ all.map Record.key →
      Text.fold x.input ≠ Text.fold raw →
      (∃ y ∈ records, x.scoreFor (Text.fold raw) ≤ y.scoreFor (Text.fold raw)) →
      { r with store := r.store.insert x }.respond cache category raw
        = r.respond cache category raw := by
  have hnumbers : ∀ x ∈ records, IsNumber (x.scoreFor (Text.fold raw)) :=
    fun x hx => isNumber_of_le (hscores x hx).1
  have hrespond := respond_eq hkey hcache hexact hlist
  refine ⟨?_, fun score hsource => ?_, ?_⟩
  · rw [hrespond, ← exists_fuzzyMatch_iff hnumbers]
    exact exists_congr fun score => source_answerOf_iff
  · obtain ⟨best, hfound⟩ := source_answerOf_iff.1 ((congrArg Resolution.source hrespond).symm.trans hsource)
    obtain ⟨hbest, rfl, hthreshold⟩ := (fuzzyMatch_eq_some_iff hnumbers).1 hfound
    rw [hfound] at hrespond
    refine ⟨⟨best, hbest, hrespond⟩, fun threshold hlower => ?_⟩
    have hfound' : fuzzyMatch threshold (Text.fold raw) records = some (best.scoreFor (Text.fold raw), best) :=
      (fuzzyMatch_eq_some_iff hnumbers).2 ⟨hbest, rfl, Number.Float.le_trans hlower hthreshold⟩
    have hlowered : { r with threshold }.respond cache category raw
        = answerOf category (Text.fold raw) (fuzzyMatch threshold (Text.fold raw) records) :=
      respond_eq hkey hcache hexact hlist
    rw [hlowered, hfound', hrespond]
  · rintro all hall x hnew hother ⟨y, hy, hle⟩
    exact respond_insert hkey hcache hexact hlist hnumbers hall hnew hother hy hle

end

/-- Two records that are equally similar to a search key. -/
def tiedRecords : List Record := [
  ⟨"product_category", "toya", "Toys"⟩,
  ⟨"product_category", "toyb", "Games"⟩]

/-- A third record that is just as similar. -/
def thirdTied : Record :=
  ⟨"product_category", "toyc", "Puzzles"⟩

/-- A resolver over the two records. -/
def tied : Resolver where
  store := ⟨.memory tiedRecords, none, none⟩
  scope := "shop"
  threshold := 0.6

/-- The first of the two is taken, also with a lower threshold, and also when the third comes behind them. -/
theorem fuzzy_first_best_tied :
    (tied.respond .standard "product_category" "Toys").value = "Toys" ∧
      { tied with threshold := 0 }.respond .standard "product_category" "Toys"
        = tied.respond .standard "product_category" "Toys" ∧
      { tied with store := tied.store.insert thirdTied }.respond .standard "product_category"
          "Toys"
        = tied.respond .standard "product_category" "Toys" := by
  obtain ⟨hiff, hbest, hinsert⟩ := fuzzy_first_best
    (show (Text.fold "Toys").isEmpty = false by decide +kernel)
    (show (Cache.standard.get (tied.cacheKey "product_category" (Text.fold "Toys"))).1 = none by
      decide +kernel)
    (show tied.store.exact "product_category" (Text.fold "Toys") = .ok none by rfl)
    (show tied.store.allFor "product_category" = .ok tiedRecords by rfl) (by decide +kernel)
  obtain ⟨score, hscore⟩ := hiff.2 (by decide +kernel)
  refine ⟨by decide +kernel, (hbest score hscore).2 0 (by decide +kernel), ?_⟩
  exact hinsert tiedRecords ⟨rfl, by decide⟩ thirdTied (by decide +kernel) (by decide +kernel)
    (by decide +kernel)

end Resolver

end Audience.Mapping
