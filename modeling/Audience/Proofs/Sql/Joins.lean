import Audience.Proofs.Sql.Layout
import Mathlib.Data.List.Infix
import Mathlib.Data.List.Sort

set_option autoImplicit false

/-! # Joins of subqueries

A subquery joins each table that it has to exactly once, and no other, however often and in whatever order
its joins are given (`occurrences_clause_subqueryLine`). Sorted and with runs cut down to one, the joins
are the tables that are joined in their order (`Join.eraseReps_mergeSort`). Only the clauses of joins have a
`J`: wherever a clause occurs in the text of a subquery, it is one of those that were written. -/

namespace Audience

open Sql

/-! ## Joins in order -/

section Repeats

variable {α : Type}

private theorem eraseRepsBy_loop_eq (r : α → α → Bool) (a : α) (as found : List α) :
    List.eraseRepsBy.loop r a as found = found.reverse ++ List.eraseRepsBy.loop r a as [] := by
  induction as generalizing a found with
  | nil => simp [List.eraseRepsBy.loop]
  | cons b as ih =>
      rw [List.eraseRepsBy.loop, List.eraseRepsBy.loop]
      split
      · exact ih a found
      · rw [ih b (a :: found), ih b [a], List.reverse_cons, List.append_assoc]
        rfl

variable [BEq α]

/-- Of two neighbours that are the same the second is left out. -/
theorem eraseReps_cons_cons (a b : α) (as : List α) :
    (a :: b :: as).eraseReps = if a == b then (a :: as).eraseReps else a :: (b :: as).eraseReps := by
  show List.eraseRepsBy.loop _ a (b :: as) [] = _
  rw [List.eraseRepsBy.loop]
  split
  · next h =>
      rw [if_pos h]
      rfl
  · next h =>
      rw [if_neg (by simp [h]), eraseRepsBy_loop_eq]
      rfl

variable [LawfulBEq α]

theorem mem_eraseReps_cons {x : α} (a : α) (as : List α) : x ∈ (a :: as).eraseReps ↔ x ∈ a :: as := by
  induction as generalizing a with
  | nil => exact Iff.rfl
  | cons b as ih =>
      rw [eraseReps_cons_cons]
      split
      · next hab =>
          obtain rfl := eq_of_beq hab
          rw [ih, List.mem_cons, List.mem_cons, List.mem_cons, or_self_left]
      · rw [List.mem_cons, ih, List.mem_cons (b := a)]

theorem mem_eraseReps {x : α} {as : List α} : x ∈ as.eraseReps ↔ x ∈ as := by
  cases as with
  | nil => exact Iff.rfl
  | cons a as => exact mem_eraseReps_cons a as

/-- A list in order has each of its items once when runs are cut down to one. -/
theorem pairwise_eraseReps {R : α → α → Prop} (hanti : ∀ a b, R a b → R b a → a = b) {as : List α}
    (h : as.Pairwise R) : as.eraseReps.Pairwise fun x y => R x y ∧ x ≠ y := by
  induction as with
  | nil => exact .nil
  | cons a as ih =>
      have hrest := List.pairwise_cons.1 h
      cases as with
      | nil => exact List.pairwise_singleton _ a
      | cons b as =>
          have hb := List.pairwise_cons.1 hrest.2
          have hlater := ih hrest.2
          rw [eraseReps_cons_cons]
          by_cases hab : a = b
          · subst hab
            rwa [if_pos (beq_self_eq_true a)]
          · rw [if_neg (by simpa using hab), List.pairwise_cons]
            refine ⟨fun x hx => ?_, hlater⟩
            have hmem := mem_eraseReps.1 hx
            refine ⟨hrest.1 x hmem, ?_⟩
            rintro rfl
            rcases List.mem_cons.1 hmem with rfl | htail
            · exact hab rfl
            · exact hab (hanti a b (hrest.1 b List.mem_cons_self) (hb.1 a htail))

end Repeats

namespace Join

theorem le_antisymm (j k : Join) (h : j.le k) (h' : k.le j) : j = k := by
  cases j <;> cases k <;> simp_all [le]

theorem le_trans (j k l : Join) (h : j.le k) (h' : k.le l) : j.le l := by
  cases j <;> cases k <;> simp_all [le]

theorem le_total (j k : Join) : (j.le k || k.le j) = true := by
  cases j <;> cases k <;> rfl

theorem mem_joinable (j : Join) : j ∈ joinable := by
  cases j <;> decide

/-- Sorted and without repeats, joins are those of the tables that are joined, in their order. -/
theorem eraseReps_mergeSort (joins : List Join) :
    (joins.mergeSort le).eraseReps = joinable.filter joins.contains := by
  have hsorted : (joins.mergeSort le).Pairwise fun j k => j.le k :=
    List.pairwise_mergeSort le_trans le_total joins
  have hwritten := pairwise_eraseReps le_antisymm hsorted
  have hjoinable : (joinable.filter joins.contains).Pairwise fun j k => j.le k ∧ j ≠ k :=
    (by decide : joinable.Pairwise fun j k => j.le k ∧ j ≠ k).filter _
  have hmem : ∀ j, j ∈ (joins.mergeSort le).eraseReps ↔ j ∈ joinable.filter joins.contains := by
    intro j
    simp [mem_eraseReps, j.mem_joinable]
  have hperm := (List.perm_ext_iff_of_nodup (hwritten.imp And.right) (hjoinable.imp And.right)).2 hmem
  exact hperm.eq_of_pairwise (fun j k _ _ h h' => le_antisymm j k h.1 h'.1) hwritten hjoinable

end Join

theorem foldl_clause (js : List Join) (out : String) :
    js.foldl (fun out join => out ++ join.clause) out = out ++ clauses js := by
  induction js generalizing out with
  | nil => rw [List.foldl_nil, clauses, String.append_empty]
  | cons j js ih => rw [List.foldl_cons, ih, clauses, String.append_assoc]

/-- A renderer writes the clause of each table that is joined once, in the order of the tables. -/
theorem Renderer.writeJoins_eq (out : String) (joins : List Join) :
    writeJoins out joins = out ++ joinClauses joins := by
  rw [writeJoins, Join.eraseReps_mergeSort, foldl_clause, joinClauses_eq]

/-! ## Occurrences of clauses -/

/-- How often some characters occur one after the other among others. -/
def occurrences (part whole : List Char) : Nat :=
  whole.tails.countP part.isPrefixOf

theorem occurrences_cons (part : List Char) (c : Char) (whole : List Char) :
    occurrences part (c :: whole)
      = occurrences part whole + if part.isPrefixOf (c :: whole) then 1 else 0 := by
  rw [occurrences, List.tails_cons, List.countP_cons]
  rfl

namespace Join

/-- The clause of a join after its `J`. -/
def words : Join → List Char
  | .productLines => "OIN product_lines p ON p.product_line_id = t.product_line_id".toList
  | .stores => "OIN stores s ON s.store_id = t.store_id".toList

theorem toList_clause (j : Join) : j.clause.toList = ' ' :: 'J' :: j.words := by
  cases j <;> decide +kernel

theorem notMem_words (j : Join) : 'J' ∉ j.words := by
  cases j <;> decide +kernel

/-- Clauses differ before either ends. -/
theorem isPrefixOf_words (j k : Join) (s : List Char) :
    j.words.isPrefixOf (k.words ++ s) = (j == k) := by
  cases j <;> cases k
  · simp
  · rfl
  · rfl
  · simp

variable (j : Join)

/-- A clause has its `J` in the second place. -/
theorem isPrefixOf_clause {c : Char} {s : List Char} (h : s.head? ≠ some 'J') :
    j.clause.toList.isPrefixOf (c :: s) = false := by
  rw [j.toList_clause, List.isPrefixOf]
  cases s with
  | nil => simp
  | cons d s =>
      have hne : ('J' == d) = false := by
        rw [beq_eq_false_iff_ne]
        rintro rfl
        exact h rfl
      rw [List.isPrefixOf, hne, Bool.false_and, Bool.and_false]

/-- A text without a `J` has no clause, nor the beginning of one that what follows would end. -/
theorem occurrences_clause_append {s t : List Char} (hs : 'J' ∉ s) (ht : t.head? ≠ some 'J') :
    occurrences j.clause.toList (s ++ t) = occurrences j.clause.toList t := by
  induction s with
  | nil => rfl
  | cons c s ih =>
      have hs' : 'J' ∉ s := fun h => hs (List.mem_cons_of_mem _ h)
      have hhead : (s ++ t).head? ≠ some 'J' := by
        cases s with
        | nil => exact ht
        | cons d s =>
            rintro h
            exact hs' (Option.some.inj h ▸ List.mem_cons_self)
      rw [List.cons_append, occurrences_cons, j.isPrefixOf_clause hhead, if_neg Bool.false_ne_true,
        Nat.add_zero, ih hs']

theorem occurrences_clause_eq_zero {s : List Char} (hs : 'J' ∉ s) :
    occurrences j.clause.toList s = 0 := by
  have hnil : occurrences j.clause.toList [] = 0 := by
    rw [j.toList_clause]
    rfl
  rw [← List.append_nil s, j.occurrences_clause_append hs (by simp), hnil]

theorem occurrences_clause_clause (k : Join) {t : List Char} (ht : t.head? ≠ some 'J') :
    occurrences j.clause.toList (k.clause.toList ++ t)
      = occurrences j.clause.toList t + if k == j then 1 else 0 := by
  -- The clause may be read where the other one starts, but not at its `J`.
  have hfirst : j.clause.toList.isPrefixOf (' ' :: 'J' :: (k.words ++ t)) = (k == j) := by
    rw [j.toList_clause, List.isPrefixOf, List.isPrefixOf, j.isPrefixOf_words]
    cases j <;> cases k <;> rfl
  have hsecond : j.clause.toList.isPrefixOf ('J' :: (k.words ++ t)) = false := by
    rw [j.toList_clause]
    rfl
  rw [k.toList_clause, List.cons_append, List.cons_append, occurrences_cons, occurrences_cons, hfirst,
    hsecond, if_neg Bool.false_ne_true, Nat.add_zero,
    j.occurrences_clause_append k.notMem_words ht]

/-- Clauses do not start with their `J`. -/
theorem head?_clauses_append (js : List Join) {t : List Char} (ht : t.head? ≠ some 'J') :
    ((clauses js).toList ++ t).head? ≠ some 'J' := by
  cases js with
  | nil => simpa [clauses] using ht
  | cons j js => simp [clauses, j.toList_clause]

theorem occurrences_clause_clauses (js : List Join) {t : List Char} (ht : t.head? ≠ some 'J') :
    occurrences j.clause.toList ((clauses js).toList ++ t)
      = js.count j + occurrences j.clause.toList t := by
  induction js with
  | nil => simp [clauses]
  | cons k js ih =>
      rw [clauses, String.toList_append, List.append_assoc,
        j.occurrences_clause_clause k (head?_clauses_append js ht), ih, List.count_cons]
      omega

/-- Each join that is asked for is written once. -/
theorem count_filter_joinable (joins : List Join) :
    (joinable.filter joins.contains).count j = if j ∈ joins then 1 else 0 := by
  have honce : joinable.count j = 1 := by
    cases j <;> rfl
  by_cases hj : j ∈ joins
  · rw [List.count_filter (by simpa using hj), honce, if_pos hj]
  · rw [if_neg hj, List.count_eq_zero]
    simp [hj]

end Join

/-! ## Texts without joins -/

/-- A text without the letter that only joins have. -/
def NoJoin (s : String) : Prop :=
  'J' ∉ s.toList

instance (s : String) : Decidable (NoJoin s) :=
  inferInstanceAs (Decidable (_ ∉ _))

theorem NoJoin.append {s t : String} (hs : NoJoin s) (ht : NoJoin t) : NoJoin (s ++ t) := by
  rw [NoJoin, String.toList_append, List.mem_append, not_or]
  exact ⟨hs, ht⟩

theorem noJoin_placeholder (d : Dialect) (n : Nat) : NoJoin (d.placeholder n) := by
  obtain ⟨mark, hmark, htext⟩ := toList_placeholder d n
  rw [NoJoin, htext, List.mem_cons, not_or]
  constructor
  · rcases hmark with rfl | rfl <;> decide
  · intro h
    exact absurd (Number.isDigit_of_mem_natText h) (by decide)

/-- Placeholders bring no join into a statement. -/
theorem noJoin_statement {d : Dialect} {line : List Token} (h : EachText NoJoin line) :
    ∀ n, NoJoin (statement d n line) := by
  induction line with
  | nil => exact fun _ h => nomatch h
  | cons token line ih =>
      intro n
      cases token with
      | text s => exact (h s List.mem_cons_self).append (ih h.of_cons n)
      | value v => exact (noJoin_placeholder d (n + 1)).append (ih h.of_cons (n + 1))

theorem noJoin_start (d : Dialect) (w : Window) : EachText NoJoin (w.start d) :=
  eachText_start (by intro unit; cases unit <;> decide +kernel) (by decide) (by decide) d w

/-! ## Texts of subqueries -/

theorem openingText_append (joins : List Join) (s : String) :
    openingText joins ++ s
      = " FROM transactions t"
        ++ (joinClauses joins ++ (" WHERE t.customer_id = c.customer_id" ++ s)) :=
  String.append_assoc.trans String.append_assoc

/-- The text of a subquery has the clause of each of its joins once, and no other, if its filters have
none. -/
theorem occurrences_clause_subqueryLine (j : Join) (d : Dialect) (n : Nat) (scope : Scope)
    {fs : List Formula} (h : ∀ f ∈ fs, EachText NoJoin (f.line d true)) :
    occurrences j.clause.toList (statement d n (subqueryLine d scope fs)).toList
      = if j ∈ scope.joins then 1 else 0 := by
  have hdate : NoJoin " AND t.transaction_date >= " := by decide +kernel
  have hcount : NoJoin " GROUP BY t.customer_id HAVING COUNT(*) >= " := by decide +kernel
  have hrest : EachText NoJoin (itemsLine d .and fs ++ lineOf d scope.closing) :=
    .append (eachText_itemsLine (by decide) h) (eachText_closing hdate hcount (noJoin_start d))
  have hfrom : NoJoin " FROM transactions t" := by decide
  have hwhere : NoJoin (" WHERE t.customer_id = c.customer_id"
      ++ statement d n (itemsLine d .and fs ++ lineOf d scope.closing)) :=
    .append (by decide +kernel) (noJoin_statement hrest n)
  have hnext : ∀ s : String,
      (" WHERE t.customer_id = c.customer_id" ++ s).toList.head? ≠ some 'J' := by
    intro s
    rw [String.toList_append]
    exact (by decide : some ' ' ≠ some 'J')
  rw [subqueryLine, lineOf_opening, List.append_assoc, List.singleton_append, statement,
    openingText_append, joinClauses_eq, String.toList_append, String.toList_append,
    j.occurrences_clause_append hfrom (Join.head?_clauses_append _ (hnext _)),
    j.occurrences_clause_clauses _ (hnext _), j.occurrences_clause_eq_zero hwhere, Nat.add_zero,
    j.count_filter_joinable]

end Audience
