import Audience.Proofs.Stored.Columns
import Audience.Proofs.Stored.Compiled

set_option autoImplicit false

/-! # What a segment means

Compiling a segment gives all of it or nothing (`Stored.Tree.all_or_nothing`). If a condition fails, so does
the segment, with the error of the first one that does (`FailsFirst`). Otherwise the formula holds of a
customer exactly when the conditions do that the segment says have to, whatever the comparisons and
subqueries in it come to (`Formula.eval`). -/

namespace Audience

/-! ## The first failure -/

section FailsFirst

variable {ε α β γ δ : Type} {run : α → Except ε β} {e : ε}

/-- Whether an error is that of the first thing for which a computation fails. -/
def FailsFirst (run : α → Except ε β) (xs : List α) (e : ε) : Prop :=
  ∃ before x after, xs = before ++ x :: after ∧ (∀ y ∈ before, ∃ b, run y = .ok b) ∧
    run x = .error e

theorem not_failsFirst_nil : ¬ FailsFirst run [] e := by
  rintro ⟨before, x, after, h, -⟩
  simp at h

theorem failsFirst_cons_iff {x : α} {xs : List α} :
    FailsFirst run (x :: xs) e ↔
      run x = .error e ∨ (∃ b, run x = .ok b) ∧ FailsFirst run xs e := by
  constructor
  · rintro ⟨before, y, after, h, hbefore, hy⟩
    match before with
    | [] =>
        obtain ⟨rfl, -⟩ := List.cons.inj h
        exact Or.inl hy
    | z :: before =>
        obtain ⟨rfl, rfl⟩ := List.cons.inj h
        rw [List.forall_mem_cons] at hbefore
        exact Or.inr ⟨hbefore.1, before, y, after, rfl, hbefore.2, hy⟩
  · rintro (hx | ⟨hx, before, y, after, rfl, hbefore, hy⟩)
    · exact ⟨[], x, xs, rfl, (fun _ h => nomatch h), hx⟩
    · exact ⟨x :: before, y, after, rfl, List.forall_mem_cons.2 ⟨hx, hbefore⟩, hy⟩

theorem FailsFirst.exists_mem {xs : List α} (h : FailsFirst run xs e) : ∃ x ∈ xs, run x = .error e := by
  obtain ⟨before, x, after, rfl, -, hx⟩ := h
  exact ⟨x, by simp, hx⟩

theorem failsFirst_singleton_iff {x : α} : FailsFirst run [x] e ↔ run x = .error e := by
  rw [failsFirst_cons_iff]
  simp [not_failsFirst_nil]

/-- Computations with the same results fail first with the same errors. -/
theorem failsFirst_iff_of_map_eq {run' : γ → Except ε β} {xs : List α} {ys : List γ}
    (h : xs.map run = ys.map run') : FailsFirst run xs e ↔ FailsFirst run' ys e := by
  induction xs generalizing ys with
  | nil =>
      obtain rfl := List.map_eq_nil_iff.1 h.symm
      exact iff_of_false not_failsFirst_nil not_failsFirst_nil
  | cons x xs ih =>
      obtain ⟨y, ys, rfl, hy, hys⟩ := List.map_eq_cons_iff.1 h.symm
      rw [failsFirst_cons_iff, failsFirst_cons_iff, ih hys.symm, hy]

theorem failsFirst_append_iff {xs ys : List α} :
    FailsFirst run (xs ++ ys) e ↔
      FailsFirst run xs e ∨ (∀ x ∈ xs, ∃ b, run x = .ok b) ∧ FailsFirst run ys e := by
  induction xs with
  | nil => simp [not_failsFirst_nil]
  | cons x xs ih =>
      rw [List.cons_append, failsFirst_cons_iff, failsFirst_cons_iff, ih, List.forall_mem_cons]
      tauto

theorem forall_ok_iff {xs : List α} :
    (∀ x ∈ xs, ∃ b, run x = .ok b) ↔ ∀ e, ¬ FailsFirst run xs e := by
  induction xs with
  | nil => simp [not_failsFirst_nil]
  | cons x xs ih =>
      simp only [List.forall_mem_cons, ih, failsFirst_cons_iff]
      cases run x <;> simp

/-- Something fails when some part of it fails, on its own. -/
theorem exists_failsFirst_iff {xs : List α} :
    (∃ e, FailsFirst run xs e) ↔ ∃ x ∈ xs, ∃ e, run x = .error e := by
  constructor
  · rintro ⟨e, h⟩
    obtain ⟨x, hx, he⟩ := h.exists_mem
    exact ⟨x, hx, e, he⟩
  · rintro ⟨x, hx, e, he⟩
    by_contra hnone
    obtain ⟨b, hb⟩ := forall_ok_iff.2 (not_exists.1 hnone) x hx
    simp [he] at hb

/-- The first thing that fails has the first part that does, if a thing fails like its parts do. -/
theorem failsFirst_flatMap_iff {whole : γ → Except ε δ} {parts : γ → List α}
    (h : ∀ z e, whole z = .error e ↔ FailsFirst run (parts z) e) {zs : List γ} :
    FailsFirst run (zs.flatMap parts) e ↔ FailsFirst whole zs e := by
  have hok : ∀ z, (∀ x ∈ parts z, ∃ b, run x = .ok b) ↔ ∃ b, whole z = .ok b := by
    intro z
    rw [forall_ok_iff, ← not_iff_not]
    simp only [← h]
    cases whole z <;> simp
  induction zs with
  | nil => simp [not_failsFirst_nil]
  | cons z zs ih =>
      rw [List.flatMap_cons, failsFirst_append_iff, failsFirst_cons_iff, h z e, hok z]
      exact or_congr_right (and_congr_right fun _ => ih)

end FailsFirst

/-! ## Which condition stops a segment -/

/-- A condition fails when the catalog has no column for it, or else on its column. -/
theorem Stored.Attribute.formula_eq_error_iff {a : Stored.Attribute} {e : CompileError} :
    a.formula = .error e ↔
      a.catalogColumn = .error e ∨ ∃ c, a.catalogColumn = .ok c ∧ a.predicate c = .error e := by
  have hlast : ∀ (c : Column) (f : Formula),
      (if c.dataset = .customers then pure f
        else pure (.exists false ⟨c.dataset.join?.toList, none, none⟩ [f])) ≠ Except.error e := by
    intro c f
    split <;> exact pure_ne_error
  simp only [Stored.Attribute.formula, bind_eq_error_iff, hlast, and_false, exists_false, or_false]

/-- A condition of an event fails like it does on its own, and stops the event. -/
theorem eventFilters_eq_error_iff {as : List Stored.Attribute} {e : CompileError} :
    eventFilters as = .error e ↔ FailsFirst Stored.Attribute.formula as e := by
  induction as with
  | nil => simp [eventFilters, not_failsFirst_nil]
  | cons a as ih =>
      have hok : (∃ f, a.formula = .ok f) ↔ ∃ c, a.catalogColumn = .ok c ∧ ∃ f, a.predicate c = .ok f := by
        simp only [Stored.Attribute.formula_eq_ok_iff]
        grind
      rw [failsFirst_cons_iff, Stored.Attribute.formula_eq_error_iff, hok, ← ih]
      simp only [eventFilters, bind_eq_error_iff, pure_ne_error, and_false, exists_false, or_false]
      grind

theorem Stored.Condition.formula_eq_error_iff (c : Stored.Condition) (e : CompileError) :
    c.formula = .error e ↔ FailsFirst Stored.Attribute.formula c.attributes e := by
  match c with
  | .attribute a => rw [Condition.attributes, failsFirst_singleton_iff, Condition.formula]
  | .event e' =>
      rw [Condition.attributes, ← eventFilters_eq_error_iff, Condition.formula, Event.formula,
        bind_eq_error_iff]
      simp [pure_ne_error]

theorem formulas_eq_error_iff {cs : List Stored.Condition} {e : CompileError} :
    formulas cs = .error e ↔ FailsFirst Stored.Condition.formula cs e := by
  induction cs with
  | nil => simp [formulas, not_failsFirst_nil]
  | cons c cs ih =>
      rw [failsFirst_cons_iff, ← ih]
      exact bind_bind_pure_eq_error_iff

theorem groupFormulas_eq_error_iff {gs : List Stored.Group} {e : CompileError} :
    groupFormulas gs = .error e ↔
      FailsFirst Stored.Condition.formula (gs.flatMap (·.conditions)) e := by
  induction gs with
  | nil => simp [groupFormulas, not_failsFirst_nil]
  | cons g gs ih =>
      rw [List.flatMap_cons, failsFirst_append_iff, ← ih, ← exists_formulas_iff,
        ← formulas_eq_error_iff]
      exact bind_bind_pure_eq_error_iff

/-- The first condition that fails stops the segment. -/
theorem Stored.Tree.predicate_eq_error_iff {t : Stored.Tree} {d : Dialect} {e : CompileError} :
    t.predicate d = .error e ↔ FailsFirst Stored.Condition.formula t.members e := by
  rw [Tree.members, failsFirst_append_iff, ← exists_formulas_iff, ← formulas_eq_error_iff,
    ← groupFormulas_eq_error_iff]
  simp only [Tree.predicate, bind_eq_error_iff, pure_ne_error, and_false, exists_false, or_false]
  exact bind_bind_pure_eq_error_iff

theorem Stored.Tree.flatMap_attributes_members (t : Stored.Tree) :
    t.members.flatMap Condition.attributes = t.attributes := by
  rw [members, attributes, List.flatMap_append, List.flatMap_assoc]

/-! ## When a formula holds -/

/-- Whether a junction of parts holds when it is known of each whether it does. -/
def Logic.holds : Logic → List Bool → Bool
  | .and, truths => truths.all id
  | .or, truths => truths.any id

mutual

/-- Whether a formula holds under an assignment of truth values to comparisons and subqueries. A junction of
nothing is written as true. -/
def Formula.eval (v : Formula → Bool) : Formula → Bool
  | .always => true
  | .junction _ [] => true
  | .junction logic (f :: fs) => logic.holds (f.eval v :: evalAll v fs)
  | f => v f

/-- Whether each of some formulas holds. -/
def evalAll (v : Formula → Bool) : List Formula → List Bool
  | [] => []
  | f :: fs => f.eval v :: evalAll v fs

end

/-- A formula that is a comparison, a pattern, a test for null, or one of a subquery. -/
def Formula.IsAtom : Formula → Prop
  | .always => False
  | .junction _ _ => False
  | _ => True

variable {v : Formula → Bool}

theorem evalAll_eq_map (fs : List Formula) : evalAll v fs = fs.map (Formula.eval v) := by
  induction fs with
  | nil => rfl
  | cons f fs ih => rw [evalAll, ih, List.map_cons]

theorem Formula.eval_junction (logic : Logic) {items : List Formula} (h : items ≠ []) :
    (junction logic items).eval v = logic.holds (items.map (eval v)) := by
  cases items with
  | nil => exact absurd rfl h
  | cons f fs => rw [eval, evalAll_eq_map, List.map_cons]

theorem Formula.IsAtom.eval_eq {f : Formula} (h : f.IsAtom) : f.eval v = v f := by
  cases f with
  | always => exact h.elim
  | junction logic items => exact h.elim
  | _ => rfl

/-! ## When a segment holds -/

namespace Stored

/-- Whether a condition holds: its formula does. -/
def Condition.truth (v : Formula → Bool) (c : Condition) : Bool :=
  match c.formula with
  | .ok f => v f
  | .error _ => false

/-- Whether a group holds when it is known of each condition whether it does. -/
def Group.holds (truth : Condition → Bool) (g : Group) : Bool :=
  g.logic.holds (g.conditions.map truth)

/-- Whether a segment holds: its conditions and its groups that have any, joined by its operator. Without
conditions it holds of every customer. -/
def Tree.holds (truth : Condition → Bool) (t : Tree) : Bool :=
  let groups := t.groups.filter (!·.conditions.isEmpty)
  let truths := t.conditions.map truth ++ groups.map (Group.holds truth)
  if truths.isEmpty then true else t.logic.holds truths

theorem Condition.isAtom {c : Condition} {f : Formula} (h : c.formula = .ok f) : f.IsAtom := by
  match c with
  | .attribute a =>
      obtain ⟨column, -, predicate, hpredicate, rfl⟩ := Attribute.formula_eq_ok_iff.1 h
      split
      · cases a.testsColumn hpredicate <;> trivial
      · trivial
  | .event e =>
      obtain ⟨found, -, rfl⟩ := Event.formula_eq_ok_iff.1 h
      cases (Term.parse e.type : EventType) with
      | performed => trivial
      | notPerformed => trivial
      | firstTime => cases e.window? <;> trivial
      | lastTime => cases e.window? <;> trivial

theorem map_eval_formulas {cs : List Condition} {fs : List Formula} (h : formulas cs = .ok fs) :
    fs.map (Formula.eval v) = cs.map (Condition.truth v) := by
  induction cs generalizing fs with
  | nil =>
      obtain rfl := Except.ok.inj h
      rfl
  | cons c cs ih =>
      obtain ⟨f, hf, rest, hrest, rfl⟩ := formulas_cons_eq_ok_iff.1 h
      have htruth : c.truth v = v f := by rw [Condition.truth, hf]
      rw [List.map_cons, List.map_cons, ih hrest, (Condition.isAtom hf).eval_eq, htruth]

/-- A group without conditions is left out, and any other one is a junction of its own. -/
theorem map_eval_groupFormulas {gs : List Group} {fs : List Formula} (h : groupFormulas gs = .ok fs) :
    fs.map (Formula.eval v)
      = (gs.filter (!·.conditions.isEmpty)).map (Group.holds (Condition.truth v)) := by
  induction gs generalizing fs with
  | nil =>
      obtain rfl := Except.ok.inj h
      rfl
  | cons g gs ih =>
      obtain ⟨ms, hms, rest, hrest, rfl⟩ := groupFormulas_cons_eq_ok_iff.1 h
      have hmembers := map_eval_formulas (v := v) hms
      cases hempty : g.conditions.isEmpty with
      | true => simp [hempty, ih hrest]
      | false =>
          have hne : ms ≠ [] := by
            rintro rfl
            simp [List.isEmpty_eq_false_iff.1 hempty] at hmembers
          simp [hempty, ih hrest, Formula.eval_junction g.logic hne, hmembers, Group.holds]

theorem Tree.eval_predicate {t : Tree} {d : Dialect} {p : Predicate} (h : t.predicate d = .ok p) :
    p.formula.eval v = t.holds (Condition.truth v) := by
  obtain ⟨cs, hcs, gs, hgs, rfl⟩ := Tree.predicate_eq_ok_iff.1 h
  have htruths : (cs ++ gs).map (Formula.eval v)
      = t.conditions.map (Condition.truth v)
        ++ (t.groups.filter (!·.conditions.isEmpty)).map (Group.holds (Condition.truth v)) := by
    rw [List.map_append, map_eval_formulas hcs, map_eval_groupFormulas hgs]
  rw [Tree.holds, ← htruths]
  cases hitems : cs ++ gs with
  | nil => rfl
  | cons f fs => exact Formula.eval_junction t.logic (List.cons_ne_nil f fs)

/-- **All or nothing.** A segment fails to compile exactly when some condition on a column does that stands
at the root, in a group, or in an event, and then with the error of the first of them. Otherwise the formula
of each condition is an atom of the segment's, and whatever the atoms are worth, the segment's formula holds
exactly when its conditions and groups do that have to by its operators. -/
theorem Tree.all_or_nothing (t : Tree) (d : Dialect) :
    ((∃ e, t.predicate d = .error e) ↔ ∃ a ∈ t.attributes, ∃ e, a.formula = .error e) ∧
    (∀ e, t.predicate d = .error e ↔ FailsFirst Condition.formula t.members e) ∧
    (∀ e, t.predicate d = .error e ↔ FailsFirst Attribute.formula t.attributes e) ∧
    ∀ p, t.predicate d = .ok p →
      (∀ c ∈ t.members, ∃ f, c.formula = .ok f ∧ f.IsAtom) ∧
      ∀ v, p.formula.eval v = t.holds (Condition.truth v) := by
  have herror : ∀ e, t.predicate d = .error e ↔ FailsFirst Attribute.formula t.attributes e := by
    intro e
    rw [Tree.predicate_eq_error_iff, ← t.flatMap_attributes_members]
    exact (failsFirst_flatMap_iff Condition.formula_eq_error_iff).symm
  refine ⟨?_, fun e => Tree.predicate_eq_error_iff, herror, fun p hp => ⟨fun c hc => ?_, fun v => ?_⟩⟩
  · simp only [herror, exists_failsFirst_iff]
  · obtain ⟨f, hf⟩ := (t.exists_predicate_iff d).1 ⟨p, hp⟩ c hc
    exact ⟨f, hf, Condition.isAtom hf⟩
  · exact t.eval_predicate hp

/-- Customers of a name who live in Hue or bought something, which a condition on its category tells. -/
def Tree.named (operator : String) : Tree :=
  ⟨3, .and, [.attribute ⟨1, "customers", "full_name", "contains", "Lan", "", .and, false, false⟩], [
    ⟨1, .and, []⟩,
    ⟨2, .or, [
      .attribute ⟨1, "customers", "city", "equals", "Hue", "", .or, false, false⟩,
      .event ⟨2, "purchase", "performed", "at_least", 1, none, none,
        [⟨1, "product_lines", "category", operator, "Books", "", .and, false, false⟩], .or⟩]⟩]⟩

theorem Tree.all_or_nothing_named :
    (∃ p, (Tree.named "equals").predicate .postgres = .ok p ∧
      ∀ v, p.formula.eval v = (Tree.named "equals").holds (Condition.truth v)) ∧
    (Tree.named "after").predicate .postgres = .error (.unsupportedOperator "after" .text) := by
  obtain ⟨p, hp⟩ : ∃ p, (Tree.named "equals").predicate .postgres = .ok p := ⟨_, rfl⟩
  have hfirst : FailsFirst Attribute.formula (Tree.named "after").attributes
      (.unsupportedOperator "after" .text) := by
    refine ⟨[_, _], _, [], rfl, ?_, rfl⟩
    exact List.forall_mem_cons.2 ⟨⟨_, rfl⟩, List.forall_mem_singleton.2 ⟨_, rfl⟩⟩
  exact ⟨⟨p, hp, ((Tree.named "equals").all_or_nothing .postgres).2.2.2 p hp |>.2⟩,
    (((Tree.named "after").all_or_nothing .postgres).2.2.1 _).2 hfirst⟩

end Stored

end Audience
