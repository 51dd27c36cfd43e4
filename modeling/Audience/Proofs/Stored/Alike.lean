import Audience.Proofs.Sql.Renderer
import Audience.Proofs.Stored.Compiled
import Mathlib.Data.List.Forall2

set_option autoImplicit false

/-! # Segments that differ in their values

Two segments are alike if they ask for the same columns with the same operators and for the same events
with the same units of time, joined in the same way. Values, names of events, qualifiers, counts, lengths
of windows and numbers may differ, as long as the same windows are looked at. Alike segments have the same
statement (`Stored.Tree.Alike.sql_eq`), so no value can get into one.

Every piece has a form, which is what a statement shows of it (`statement_form`), and the lines of alike
formulas have the same forms (`Formula.Alike`). Compiling takes alike conditions to alike formulas: it
looks at values only to say that there is no formula. -/

namespace Audience

open Sql

/-! ## What a statement shows -/

/-- A token without its value. -/
def Token.form : Token → Token
  | .text s => .text s
  | .value _ => .value .null

/-- A piece without its value; of a window the unit is left. -/
def Piece.form : Piece → Piece
  | .text s => .text s
  | .value _ => .value .null
  | .windowStart w => .windowStart ⟨w.unit, 1⟩

theorem statement_form (d : Dialect) (line : List Token) :
    ∀ n, statement d n (line.map Token.form) = statement d n line := by
  induction line with
  | nil => intro n; rfl
  | cons token line ih =>
      intro n
      cases token with
      | text s => rw [List.map_cons, Token.form, statement, statement, ih]
      | value v => rw [List.map_cons, Token.form, statement, statement, ih]

theorem length_parameters_form (line : List Token) :
    (parameters (line.map Token.form)).length = (parameters line).length := by
  induction line with
  | nil => rfl
  | cons token line ih =>
      cases token with
      | text s => rw [List.map_cons, Token.form, parameters_text, parameters_text, ih]
      | value v =>
          rw [List.map_cons, Token.form, parameters_value, parameters_value, List.length_cons,
            List.length_cons, ih]

/-- The form of a piece says which form its tokens have in a dialect. -/
theorem Piece.map_form_tokens (d : Dialect) (piece : Piece) :
    (piece.form.tokens d).map Token.form = (piece.tokens d).map Token.form := by
  cases piece with
  | text s => rfl
  | value v => rfl
  | windowStart w => cases d <;> rfl

theorem map_form_lineOf (d : Dialect) (pieces : List Piece) :
    (lineOf d (pieces.map Piece.form)).map Token.form = (lineOf d pieces).map Token.form := by
  rw [lineOf, lineOf, List.flatMap_map, List.map_flatMap, List.map_flatMap]
  exact congrArg pieces.flatMap (funext fun piece => piece.map_form_tokens d)

/-! ## Alike formulas -/

/-- Formulas whose lines have the same forms, wherever they stand. -/
def Formula.Alike (f g : Formula) : Prop :=
  ∀ nested, (f.layout nested).map Piece.form = (g.layout nested).map Piece.form

theorem Predicate.select_eq {p p' : Predicate} (h : p.sql = p'.sql) : p.select = p'.select := by
  unfold select
  rw [h]

/-- Alike formulas have the same statement, with as many parameters. -/
theorem Formula.Alike.statement_eq {f g : Formula} (h : f.Alike g) (d : Dialect) :
    (Predicate.mk d f).sql = (Predicate.mk d g).sql ∧
      (Predicate.mk d f).params.length = (Predicate.mk d g).params.length := by
  have htokens : (f.tokens d).map Token.form = (g.tokens d).map Token.form := by
    have hforms := congrArg (fun pieces => (lineOf d pieces).map Token.form) (h false)
    simp only [map_form_lineOf] at hforms
    exact hforms
  constructor
  · rw [Predicate.sql_eq_statement, Predicate.sql_eq_statement, ← statement_form d (f.tokens d), htokens,
      statement_form]
  · rw [Predicate.params_eq_parameters, Predicate.params_eq_parameters,
      ← length_parameters_form (f.tokens d), htokens, length_parameters_form]

theorem map_form_layoutItems (logic : Logic) {fs gs : List Formula}
    (h : List.Forall₂ Formula.Alike fs gs) :
    (layoutItems logic fs).map Piece.form = (layoutItems logic gs).map Piece.form := by
  induction h with
  | nil => rfl
  | cons hfirst _ ih =>
      simp only [layoutItems, List.map_cons, List.map_append, hfirst true, ih]

/-- A junction of alike items, one by one. -/
theorem Formula.Alike.junction (logic : Logic) {fs gs : List Formula}
    (h : List.Forall₂ Formula.Alike fs gs) : (junction logic fs).Alike (junction logic gs) := by
  intro nested
  match h with
  | .nil => rfl
  | .cons hfirst .nil => simpa only [layout] using hfirst nested
  | .cons hfirst (.cons hsecond hrest) =>
      have hitems := map_form_layoutItems logic (.cons hsecond hrest)
      simp only [layout, List.map_append, hfirst true, hitems]

/-- Scopes with the same joins that look at a window of the same unit, and ask for a least number, or
neither of them does. -/
structure Scope.Alike (s s' : Scope) : Prop where
  joins : s.joins = s'.joins
  window : s.window.map Window.unit = s'.window.map Window.unit
  minCount : s.minCount.isSome = s'.minCount.isSome

theorem Scope.Alike.map_form_closing {s s' : Scope} (h : s.Alike s') :
    s.closing.map Piece.form = s'.closing.map Piece.form := by
  obtain ⟨joins, window, minCount⟩ := s
  obtain ⟨joins', window', minCount'⟩ := s'
  obtain ⟨-, hwindow, hcount⟩ := h
  cases window <;> cases window' <;> cases minCount <;> cases minCount' <;>
    simp_all [closing, Piece.form]

section Subqueries

variable {scope scope' : Scope} (hscope : scope.Alike scope') {fs gs : List Formula}
  (hfilters : List.Forall₂ Formula.Alike fs gs)
include hscope hfilters

/-- What stands between the parentheses of alike subqueries. -/
theorem map_form_subquery :
    (scope.opening ++ layoutFilters fs ++ scope.closing).map Piece.form
      = (scope'.opening ++ layoutFilters gs ++ scope'.closing).map Piece.form := by
  simp only [List.map_append, hscope.map_form_closing, Scope.opening, hscope.joins, layoutFilters_eq,
    map_form_layoutItems .and hfilters]

theorem Formula.Alike.exists (negated : Bool) :
    (Formula.exists negated scope fs).Alike (.exists negated scope' gs) := by
  intro nested
  have hsubquery := map_form_subquery hscope hfilters
  simp only [layout, List.cons_append, List.map_cons, List.map_append] at hsubquery ⊢
  rw [hsubquery]

theorem Formula.Alike.eventDate (extreme : Extreme) {w w' : Window} (hunit : w.unit = w'.unit) :
    (eventDate extreme scope fs w).Alike (eventDate extreme scope' gs w') := by
  intro nested
  have hsubquery := map_form_subquery hscope hfilters
  simp only [layout, List.cons_append, List.map_cons, List.map_append, List.map_nil,
    Piece.form, hunit] at hsubquery ⊢
  rw [hsubquery]

end Subqueries

/-! ## Alike segments -/

namespace Stored

/-- Conditions that apply the same operator to the same column. -/
structure Attribute.Alike (a a' : Attribute) : Prop where
  dataset : a.dataset = a'.dataset
  column : a.column = a'.column
  operator : a.operator = a'.operator

/-- Events of the same type and with the same unit of time, both or neither of them within a window, with
alike conditions. -/
structure Event.Alike (e e' : Event) : Prop where
  type : e.type = e'.type
  unit : e.unit = e'.unit
  window : e.window?.isSome = e'.window?.isSome
  attributes : List.Forall₂ Attribute.Alike e.attributes e'.attributes

/-- Alike conditions are of the same kind. -/
inductive Condition.Alike : Condition → Condition → Prop where
  | attribute {a a' : Attribute} (h : a.Alike a') : Alike (.attribute a) (.attribute a')
  | event {e e' : Event} (h : e.Alike e') : Alike (.event e) (.event e')

/-- Groups with the same operator and alike members. -/
structure Group.Alike (g g' : Group) : Prop where
  logic : g.logic = g'.logic
  conditions : List.Forall₂ Condition.Alike g.conditions g'.conditions

/-- Segments of the same shape that differ in values only, and in what no statement needs: names of events,
qualifiers, counts, lengths of windows, numbers, sizes and marks. -/
structure Tree.Alike (t t' : Tree) : Prop where
  logic : t.logic = t'.logic
  conditions : List.Forall₂ Condition.Alike t.conditions t'.conditions
  groups : List.Forall₂ Group.Alike t.groups t'.groups

/-! ## Compiling alike conditions -/

theorem Attribute.Alike.column_eq {a a' : Attribute} (h : a.Alike a') {c c' : Column}
    (hc : a.catalogColumn = .ok c) (hc' : a'.catalogColumn = .ok c') : c = c' := by
  rw [catalogColumn, ← h.dataset, ← h.column] at hc'
  exact Except.ok.inj (hc.symm.trans hc')

end Stored

/-- The same test asks a column for the same thing, whatever the values. -/
theorem ColumnTest.alike {test : ColumnTest} {c : Column} {value value2 value' value2' : String}
    {f f' : Formula} (h : test.formula c value value2 = .ok f)
    (h' : test.formula c value' value2' = .ok f') : f.Alike f' := by
  cases test with
  | isNull negated =>
      obtain rfl := Except.ok.inj h
      obtain rfl := Except.ok.inj h'
      exact fun _ => rfl
  | truth b =>
      obtain rfl := Except.ok.inj h
      obtain rfl := Except.ok.inj h'
      exact fun _ => rfl
  | comparison op =>
      obtain ⟨v, -, hv⟩ := bind_eq_ok_iff.1 h
      obtain rfl := pure_eq_ok_iff.1 hv
      obtain ⟨v', -, hv'⟩ := bind_eq_ok_iff.1 h'
      obtain rfl := pure_eq_ok_iff.1 hv'
      intro nested
      simp only [Formula.layout, List.map_cons, Piece.form]
  | range =>
      obtain ⟨low, -, hlow⟩ := bind_eq_ok_iff.1 h
      obtain ⟨high, -, hhigh⟩ := bind_eq_ok_iff.1 hlow
      obtain rfl := pure_eq_ok_iff.1 hhigh
      obtain ⟨low', -, hlow'⟩ := bind_eq_ok_iff.1 h'
      obtain ⟨high', -, hhigh'⟩ := bind_eq_ok_iff.1 hlow'
      obtain rfl := pure_eq_ok_iff.1 hhigh'
      intro nested
      simp only [Formula.layout, List.map_cons, Piece.form]
  | pattern negated ofText =>
      obtain rfl := Except.ok.inj h
      obtain rfl := Except.ok.inj h'
      intro nested
      simp only [Formula.layout, List.map_cons, Piece.form]

namespace Stored

theorem Attribute.Alike.predicate {a a' : Attribute} (h : a.Alike a') {c : Column} {f f' : Formula}
    (hf : a.predicate c = .ok f) (hf' : a'.predicate c = .ok f') : f.Alike f' := by
  obtain ⟨test, htest, hformula⟩ := predicate_eq_ok_iff.1 hf
  obtain ⟨test', htest', hformula'⟩ := predicate_eq_ok_iff.1 hf'
  obtain rfl : test = test' := by
    rw [← h.operator, htest] at htest'
    exact Option.some.inj htest'
  exact ColumnTest.alike hformula hformula'

theorem Attribute.Alike.formula {a a' : Attribute} (h : a.Alike a') {f f' : Formula}
    (hf : a.formula = .ok f) (hf' : a'.formula = .ok f') : f.Alike f' := by
  obtain ⟨c, hc, predicate, hp, rfl⟩ := formula_eq_ok_iff.1 hf
  obtain ⟨c', hc', predicate', hp', rfl⟩ := formula_eq_ok_iff.1 hf'
  obtain rfl := h.column_eq hc hc'
  have halike := h.predicate hp hp'
  by_cases hcustomers : c.dataset = .customers
  · simpa only [if_pos hcustomers] using halike
  · simp only [if_neg hcustomers]
    exact .exists ⟨rfl, rfl, rfl⟩ (.cons halike .nil) false

/-- Alike conditions of events need the same joins and have alike filters. -/
theorem eventFilters_alike {as as' : List Attribute} (h : List.Forall₂ Attribute.Alike as as')
    {found found' : List Join × List Formula} (hf : eventFilters as = .ok found)
    (hf' : eventFilters as' = .ok found') :
    found.1 = found'.1 ∧ List.Forall₂ Formula.Alike found.2 found'.2 := by
  induction h generalizing found found' with
  | nil =>
      obtain rfl := Except.ok.inj hf
      obtain rfl := Except.ok.inj hf'
      exact ⟨rfl, .nil⟩
  | cons ha _ ih =>
      obtain ⟨c, hc, f, hp, rest, hrest, rfl⟩ := eventFilters_cons_eq_ok_iff.1 hf
      obtain ⟨c', hc', f', hp', rest', hrest', rfl⟩ := eventFilters_cons_eq_ok_iff.1 hf'
      obtain rfl := ha.column_eq hc hc'
      obtain ⟨hjoins, hfilters⟩ := ih hrest hrest'
      exact ⟨by rw [hjoins], .cons (ha.predicate hp hp') hfilters⟩

/-- The unit of the window of an event is the one that is stored. -/
theorem Event.map_unit_window? (e : Event) :
    e.window?.map Window.unit = if e.window?.isSome then e.unit.bind Term.parse? else none := by
  unfold window?
  cases e.unit with
  | none => rfl
  | some raw =>
      cases hunit : (Term.parse? raw : Option TimeUnit) with
      | none => simp [hunit]
      | some unit =>
          cases e.length with
          | none => simp
          | some length => by_cases hpos : 0 < length <;> simp [hunit, hpos]

theorem Event.Alike.formula {e e' : Event} (h : e.Alike e') {f f' : Formula}
    (hf : e.formula = .ok f) (hf' : e'.formula = .ok f') : f.Alike f' := by
  obtain ⟨found, hfound, rfl⟩ := formula_eq_ok_iff.1 hf
  obtain ⟨found', hfound', rfl⟩ := formula_eq_ok_iff.1 hf'
  obtain ⟨hjoins, hfilters⟩ := eventFilters_alike h.attributes hfound hfound'
  have hunit : e.window?.map Window.unit = e'.window?.map Window.unit := by
    rw [map_unit_window?, map_unit_window?, h.window, h.unit]
  -- The first and the last date stand outside of the scope that they are taken in.
  have hextreme : ∀ extreme, (extremeFormula extreme found.1 found.2 e.window?).Alike
      (extremeFormula extreme found'.1 found'.2 e'.window?) := by
    intro extreme
    have hscope : Scope.Alike ⟨found.1, none, none⟩ ⟨found'.1, none, none⟩ := ⟨hjoins, rfl, rfl⟩
    cases hwindow : e.window? with
    | none =>
        cases hwindow' : e'.window? with
        | none => exact Formula.Alike.exists hscope hfilters false
        | some w' => simp [hwindow, hwindow'] at hunit
    | some w =>
        cases hwindow' : e'.window? with
        | none => simp [hwindow, hwindow'] at hunit
        | some w' =>
            rw [hwindow, hwindow'] at hunit
            exact Formula.Alike.eventDate hscope hfilters extreme (Option.some.inj hunit)
  rw [← h.type]
  cases (Term.parse e.type : EventType) with
  | performed =>
      have hscope : Scope.Alike ⟨found.1, e.window?, some (max e.count 1)⟩
          ⟨found'.1, e'.window?, some (max e'.count 1)⟩ :=
        ⟨hjoins, hunit, by rw [Option.isSome_some, Option.isSome_some]⟩
      exact Formula.Alike.exists hscope hfilters false
  | notPerformed =>
      have hscope : Scope.Alike ⟨found.1, e.window?, none⟩ ⟨found'.1, e'.window?, none⟩ :=
        ⟨hjoins, hunit, rfl⟩
      exact Formula.Alike.exists hscope hfilters true
  | firstTime => exact hextreme .first
  | lastTime => exact hextreme .last

theorem Condition.Alike.formula {c c' : Condition} (h : c.Alike c') {f f' : Formula}
    (hf : c.formula = .ok f) (hf' : c'.formula = .ok f') : f.Alike f' := by
  match h with
  | .attribute h => exact h.formula hf hf'
  | .event h => exact h.formula hf hf'

theorem isEmpty_eq_of_forall₂ {α : Type} {R : α → α → Prop} {xs ys : List α}
    (h : List.Forall₂ R xs ys) : xs.isEmpty = ys.isEmpty := by
  cases h <;> rfl

theorem formulas_alike {cs cs' : List Condition} (h : List.Forall₂ Condition.Alike cs cs')
    {fs fs' : List Formula} (hf : formulas cs = .ok fs) (hf' : formulas cs' = .ok fs') :
    List.Forall₂ Formula.Alike fs fs' := by
  induction h generalizing fs fs' with
  | nil =>
      obtain rfl := Except.ok.inj hf
      obtain rfl := Except.ok.inj hf'
      exact .nil
  | cons hc _ ih =>
      obtain ⟨f, hcf, rest, hrest, rfl⟩ := formulas_cons_eq_ok_iff.1 hf
      obtain ⟨f', hcf', rest', hrest', rfl⟩ := formulas_cons_eq_ok_iff.1 hf'
      exact .cons (hc.formula hcf hcf') (ih hrest hrest')

theorem groupFormulas_alike {gs gs' : List Group} (h : List.Forall₂ Group.Alike gs gs')
    {fs fs' : List Formula} (hf : groupFormulas gs = .ok fs) (hf' : groupFormulas gs' = .ok fs') :
    List.Forall₂ Formula.Alike fs fs' := by
  induction h generalizing fs fs' with
  | nil =>
      obtain rfl := Except.ok.inj hf
      obtain rfl := Except.ok.inj hf'
      exact .nil
  | @cons g g' _ _ hg _ ih =>
      obtain ⟨ms, hms, rest, hrest, rfl⟩ := groupFormulas_cons_eq_ok_iff.1 hf
      obtain ⟨ms', hms', rest', hrest', rfl⟩ := groupFormulas_cons_eq_ok_iff.1 hf'
      have hempty := isEmpty_eq_of_forall₂ hg.conditions
      have hmembers := formulas_alike hg.conditions hms hms'
      rw [hempty, hg.logic]
      split
      · exact ih hrest hrest'
      · exact .cons (.junction g'.logic hmembers) (ih hrest hrest')

/-- **No value gets into a statement.** Segments that differ in their values alone, and that both compile
for a dialect, have the same statement and the same selection, and they bind as many parameters. -/
theorem Tree.Alike.sql_eq {t t' : Tree} (h : t.Alike t') {d : Dialect} {p p' : Predicate}
    (hp : t.predicate d = .ok p) (hp' : t'.predicate d = .ok p') :
    p.sql = p'.sql ∧ p.select = p'.select ∧ p.params.length = p'.params.length := by
  obtain ⟨cs, hcs, gs, hgs, rfl⟩ := predicate_eq_ok_iff.1 hp
  obtain ⟨cs', hcs', gs', hgs', rfl⟩ := predicate_eq_ok_iff.1 hp'
  have hitems : List.Forall₂ Formula.Alike (cs ++ gs) (cs' ++ gs') :=
    List.rel_append (formulas_alike h.conditions hcs hcs') (groupFormulas_alike h.groups hgs hgs')
  have hformula : Formula.Alike
      (if (cs ++ gs).isEmpty then .always else .junction t.logic (cs ++ gs))
      (if (cs' ++ gs').isEmpty then .always else .junction t'.logic (cs' ++ gs')) := by
    rw [h.logic, isEmpty_eq_of_forall₂ hitems]
    split
    · exact fun _ => rfl
    · exact .junction t'.logic hitems
  obtain ⟨hsql, hcount⟩ := hformula.statement_eq d
  exact ⟨hsql, Predicate.select_eq hsql, hcount⟩

/-- Customers of a name who bought something of a category so often within so many months. -/
def Tree.buyers (name category : String) (count months : Int64) : Tree :=
  ⟨2, .and, [.attribute ⟨1, "customers", "full_name", "contains", name, "", .and, false, false⟩],
    [⟨1, .or, [.event ⟨1, "purchase", "performed", "at_least", count, some "months", some months,
      [⟨1, "product_lines", "category", "equals", category, "", .and, false, false⟩], .and⟩]⟩]⟩

/-- What is meant to break out of its quotes is bound like any other name. -/
theorem Tree.Alike.sql_eq_buyers :
    (Tree.buyers "Lan" "Books" 2 3).Alike (Tree.buyers "' OR 1=1 --" "'); DROP TABLE stores" 1 12) ∧
    ∃ p p', (Tree.buyers "Lan" "Books" 2 3).predicate .sqlite = .ok p ∧
      (Tree.buyers "' OR 1=1 --" "'); DROP TABLE stores" 1 12).predicate .sqlite = .ok p' ∧
      p.sql = p'.sql ∧ p.select = p'.select ∧ p.params.length = p'.params.length := by
  have halike : (Tree.buyers "Lan" "Books" 2 3).Alike
      (Tree.buyers "' OR 1=1 --" "'); DROP TABLE stores" 1 12) := by
    refine ⟨rfl, .cons (.attribute ⟨rfl, rfl, rfl⟩) .nil, .cons ⟨rfl, .cons (.event ?_) .nil⟩ .nil⟩
    exact ⟨rfl, rfl, by decide, .cons ⟨rfl, rfl, rfl⟩ .nil⟩
  obtain ⟨p, hp⟩ : ∃ p, (Tree.buyers "Lan" "Books" 2 3).predicate .sqlite = .ok p := ⟨_, rfl⟩
  obtain ⟨p', hp'⟩ : ∃ p, (Tree.buyers "' OR 1=1 --" "'); DROP TABLE stores" 1 12).predicate .sqlite
      = .ok p := ⟨_, rfl⟩
  exact ⟨halike, p, p', hp, hp', halike.sql_eq hp hp'⟩

end Stored

end Audience
