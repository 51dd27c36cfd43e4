import Audience.Proofs.Number.Plain
import Audience.Proofs.Sql.Renderer
import Audience.Proofs.Stored.Compiled

set_option autoImplicit false

/-! # What a segment binds

The parameters of a predicate are those of its conditions in order, wherever the conditions stand
(`Stored.Tree.params_predicate`). A condition on a column binds what its test of the column does, and the
subquery around it adds nothing. A condition on events binds what its conditions on columns bind, and after
them how far back and how often (`Stored.Event.bindings_formula`). -/

namespace Audience

/-- What a formula binds, if there is one. -/
def boundBy : Except CompileError Formula → List Binding
  | .ok f => f.bindings
  | .error _ => []

/-! ## Tests of columns -/

section Tests

variable {c : Column} {value value2 : String} {v v2 : Scalar}

/-- An integer is read again from the text that is stored for it. -/
theorem Column.value_int (h : c.type = .number) (n : Int64) :
    c.value (Scalar.int n).display = .ok (.int n) := by
  have hvalue : c.type.value? (Scalar.int n).display = some (.int n) := by
    rw [h]
    exact Scalar.ofNumberText?_int64Text n
  rw [value, hvalue]

/-- A text stands for itself. -/
theorem Column.value_text (h : c.type = .text) (s : String) : c.value s = .ok (.text s) := by
  rw [value, h]
  rfl

/-- Nothing is stored for null, and that is no number. -/
theorem Column.value_null (h : c.type = .number) :
    c.value Scalar.null.display = .error (.invalidValue c "") := by
  have hvalue : c.type.value? Scalar.null.display = none := by
    rw [h]
    rfl
  rw [value, hvalue]
  rfl

theorem ColumnTest.formula_comparison (op : Comparison) (h : c.value value = .ok v) :
    (comparison op).formula c value value2 = .ok (.compare c.ref op v) := by
  rw [formula, h]
  rfl

theorem ColumnTest.formula_range (h : c.value value = .ok v) (h2 : c.value value2 = .ok v2) :
    range.formula c value value2 = .ok (.between c.ref v v2) := by
  rw [formula, h, h2]
  rfl

end Tests

/-- The operators of numbers that take one value. -/
theorem FieldType.comparison?_number : ∀ op ∈ number.operators,
    op.code ∉ ["between", "is_null", "is_not_null"] → (number.comparison? op.code).isSome = true := by
  decide

/-! ## Conditions -/

/-- A condition on a column binds what its test of the column does. -/
theorem Stored.Attribute.bindings_formula {a : Stored.Attribute} {c : Column} {f : Formula}
    (hc : a.catalogColumn = .ok c) (hf : a.predicate c = .ok f) :
    ∃ g, a.formula = .ok g ∧ g.bindings = f.bindings := by
  refine ⟨_, formula_eq_ok_iff.2 ⟨c, hc, f, hf, rfl⟩, ?_⟩
  split
  · rfl
  · exact (List.append_nil _).trans (List.append_nil _)

/-- The conditions of an event bind one after the other. -/
theorem bindingsOf_eventFilters {as : List Stored.Attribute} {found : List Join × List Formula}
    (h : eventFilters as = .ok found) :
    bindingsOf found.2 = (as.map Stored.Attribute.formula).flatMap boundBy := by
  induction as generalizing found with
  | nil =>
      obtain rfl := Except.ok.inj h
      rfl
  | cons a as ih =>
      obtain ⟨c, hc, f, hf, rest, hrest, rfl⟩ := eventFilters_cons_eq_ok_iff.1 h
      obtain ⟨g, hg, hbindings⟩ := Stored.Attribute.bindings_formula hc hf
      rw [List.map_cons, List.flatMap_cons, ← ih hrest, hg, boundBy, hbindings, bindingsOf]

/-- What an event binds for how far back it has to have happened, and how often. -/
def Stored.Event.extentBindings (e : Stored.Event) : List Binding :=
  e.window?.toList.map .amount
    ++ match (Term.parse e.type : EventType) with
      | .performed => [.value (.int (max e.count 1))]
      | _ => []

theorem Stored.Event.length_extentBindings (e : Stored.Event) : e.extentBindings.length ≤ 2 := by
  unfold extentBindings
  cases (Term.parse e.type : EventType) <;> cases e.window? <;> simp

theorem Stored.Event.bindings_formula {e : Stored.Event} {f : Formula} (h : e.formula = .ok f) :
    f.bindings = (e.attributes.map Attribute.formula).flatMap boundBy ++ e.extentBindings := by
  obtain ⟨found, hfound, rfl⟩ := formula_eq_ok_iff.1 h
  rw [← bindingsOf_eventFilters hfound, extentBindings]
  cases (Term.parse e.type : EventType) with
  | performed => rfl
  | notPerformed => rfl
  | firstTime => cases e.window? <;> simp [extremeFormula, Formula.bindings, Scope.bindings]
  | lastTime => cases e.window? <;> simp [extremeFormula, Formula.bindings, Scope.bindings]

/-! ## Segments -/

theorem bindingsOf_append (fs gs : List Formula) :
    bindingsOf (fs ++ gs) = bindingsOf fs ++ bindingsOf gs := by
  induction fs with
  | nil => rfl
  | cons f fs ih => rw [List.cons_append, bindingsOf, bindingsOf, ih, List.append_assoc]

theorem bindingsOf_formulas {cs : List Stored.Condition} {fs : List Formula}
    (h : formulas cs = .ok fs) :
    bindingsOf fs = (cs.map Stored.Condition.formula).flatMap boundBy := by
  induction cs generalizing fs with
  | nil =>
      obtain rfl := Except.ok.inj h
      rfl
  | cons c cs ih =>
      obtain ⟨f, hf, rest, hrest, rfl⟩ := formulas_cons_eq_ok_iff.1 h
      rw [List.map_cons, List.flatMap_cons, ← ih hrest, hf, boundBy, bindingsOf]

/-- A group without conditions binds nothing, and so it makes no difference that it is left out. -/
theorem bindingsOf_groupFormulas {gs : List Stored.Group} {fs : List Formula}
    (h : groupFormulas gs = .ok fs) :
    bindingsOf fs = ((gs.flatMap (·.conditions)).map Stored.Condition.formula).flatMap boundBy := by
  induction gs generalizing fs with
  | nil =>
      obtain rfl := Except.ok.inj h
      rfl
  | cons g gs ih =>
      obtain ⟨ms, hms, rest, hrest, rfl⟩ := groupFormulas_cons_eq_ok_iff.1 h
      rw [List.flatMap_cons, List.map_append, List.flatMap_append, ← ih hrest, ← bindingsOf_formulas hms]
      split
      · next hempty =>
          rw [List.isEmpty_iff.1 hempty] at hms
          obtain rfl := Except.ok.inj hms
          rfl
      · rw [bindingsOf, Formula.bindings]

/-- The parameters of a predicate are those of its conditions in order. -/
theorem Stored.Tree.params_predicate {t : Stored.Tree} {d : Dialect} {p : Predicate}
    (h : t.predicate d = .ok p) :
    p.params = ((t.members.map Condition.formula).flatMap boundBy).map (Binding.scalar d) := by
  obtain ⟨cs, hcs, gs, hgs, rfl⟩ := predicate_eq_ok_iff.1 h
  rw [members, List.map_append, List.flatMap_append, ← bindingsOf_formulas hcs,
    ← bindingsOf_groupFormulas hgs, ← bindingsOf_append]
  refine (Predicate.params_eq_parameters _).trans ((Formula.parameters_line d _ false).trans (congrArg _ ?_))
  cases cs ++ gs <;> rfl

end Audience
