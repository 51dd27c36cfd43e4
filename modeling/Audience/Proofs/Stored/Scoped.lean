import Audience.Proofs.Sql.Joins
import Audience.Proofs.Sql.Renderer
import Audience.Proofs.Stored.Compiled

set_option autoImplicit false

/-! # Statements of segments are well scoped

Whatever compiles asks for columns of the catalog only, and each of them under a name that stands for its
table where it is asked for: outside of subqueries that is the table of customers, and in a subquery a table
that it joins (`Formula.WellScoped`). A condition brings its join along with its filter, so no filter goes
without (`Formula.TestsJoined`), and a join that several conditions bring is written once. -/

namespace Audience

open Sql

/-! ## Subqueries -/

/-- A subquery of a formula, and the window that its first or last date has to be in, if it has one. -/
structure Subquery where
  scope : Scope
  filters : List Formula
  bound : Option Window

/-- The text of a subquery after `n` placeholders. -/
def Subquery.text (q : Subquery) (d : Dialect) (n : Nat) : String :=
  statement d n (subqueryLine d q.scope q.filters)

/-- That is what a renderer writes of the subquery once it has bound so many values. -/
theorem Subquery.run_writeBody (q : Subquery) (d : Dialect) (params : List Scalar) (out : String) :
    ((Renderer.writeBody q.scope (Renderer.writeEach " AND " · q.filters) out).run ⟨d, false, params⟩).1
      = out ++ q.text d params.length := by
  have hfilters := Renderer.writes_writeEach .and
    (fun f (_ : f ∈ q.filters) => Renderer.writes_writeExpr f) ⟨d, false, params⟩
  exact congrArg Prod.fst (Renderer.writes_writeBody q.scope hfilters out)

mutual

/-- The subqueries of a formula. -/
def Formula.subqueries : Formula → List Subquery
  | .exists _ scope filters => ⟨scope, filters, none⟩ :: subqueriesOf filters
  | .eventDate _ scope filters window => ⟨scope, filters, some window⟩ :: subqueriesOf filters
  | .junction _ items => subqueriesOf items
  | _ => []

/-- The subqueries of some formulas. -/
def subqueriesOf : List Formula → List Subquery
  | [] => []
  | f :: fs => f.subqueries ++ subqueriesOf fs

end

mutual

/-- The columns of a formula outside of its subqueries. -/
def Formula.ownColumns : Formula → List ColumnRef
  | .compare column _ _ => [column]
  | .between column _ _ => [column]
  | .like _ column _ => [column]
  | .isNull _ column => [column]
  | .junction _ items => ownColumnsOf items
  | _ => []

/-- The columns of some formulas outside of their subqueries. -/
def ownColumnsOf : List Formula → List ColumnRef
  | [] => []
  | f :: fs => f.ownColumns ++ ownColumnsOf fs

end

theorem columnsOf_eq_flatMap (fs : List Formula) : columnsOf fs = fs.flatMap Formula.columns := by
  induction fs with
  | nil => rfl
  | cons f fs ih => rw [columnsOf, ih, List.flatMap_cons]

theorem ownColumnsOf_eq_flatMap (fs : List Formula) :
    ownColumnsOf fs = fs.flatMap Formula.ownColumns := by
  induction fs with
  | nil => rfl
  | cons f fs ih => rw [ownColumnsOf, ih, List.flatMap_cons]

theorem subqueriesOf_eq_flatMap (fs : List Formula) :
    subqueriesOf fs = fs.flatMap Formula.subqueries := by
  induction fs with
  | nil => rfl
  | cons f fs ih => rw [subqueriesOf, ih, List.flatMap_cons]

/-! ## Scopes -/

/-- A subquery that joins the tables of its columns, each once, and neither looks back over nothing nor asks
for nothing. -/
structure Subquery.WellScoped (q : Subquery) : Prop where
  productLines : ∀ column ∈ ownColumnsOf q.filters, column.table = "p" → .productLines ∈ q.scope.joins
  stores : ∀ column ∈ ownColumnsOf q.filters, column.table = "s" → .stores ∈ q.scope.joins
  joinedOnce : ∀ d n, ∀ j : Join, occurrences j.clause.toList (q.text d n).toList
    = if j ∈ q.scope.joins then 1 else 0
  window : ∀ w, q.scope.window = some w ∨ q.bound = some w → 1 ≤ w.length
  minCount : ∀ n, q.scope.minCount = some n → 1 ≤ n

/-- A formula over the catalog of which only the subqueries ask for other tables than the customers'. -/
structure Formula.WellScoped (f : Formula) : Prop where
  overCatalog : f.OverCatalog
  own : ∀ column ∈ f.ownColumns, column.table = "c"
  subqueries : ∀ q ∈ f.subqueries, q.WellScoped

theorem Formula.wellScoped_always : always.WellScoped :=
  ⟨fun _ h => (nomatch h), fun _ h => (nomatch h), fun _ h => nomatch h⟩

theorem Formula.WellScoped.junction {logic : Logic} {items : List Formula}
    (h : ∀ f ∈ items, f.WellScoped) : (Formula.junction logic items).WellScoped where
  overCatalog column hcolumn := by
    rw [columns, columnsOf_eq_flatMap, List.mem_flatMap] at hcolumn
    obtain ⟨f, hf, hcolumn⟩ := hcolumn
    exact (h f hf).overCatalog column hcolumn
  own column hcolumn := by
    rw [ownColumns, ownColumnsOf_eq_flatMap, List.mem_flatMap] at hcolumn
    obtain ⟨f, hf, hcolumn⟩ := hcolumn
    exact (h f hf).own column hcolumn
  subqueries q hq := by
    rw [Formula.subqueries, subqueriesOf_eq_flatMap, List.mem_flatMap] at hq
    obtain ⟨f, hf, hq⟩ := hq
    exact (h f hf).subqueries q hq

/-! ## Filters -/

namespace Formula

variable {column : ColumnRef} {f : Formula}

theorem TestsColumn.columns_eq (h : f.TestsColumn column) : f.columns = [column] := by
  cases h <;> rfl

theorem TestsColumn.ownColumns_eq (h : f.TestsColumn column) : f.ownColumns = [column] := by
  cases h <;> rfl

theorem TestsColumn.subqueries_eq (h : f.TestsColumn column) : f.subqueries = [] := by
  cases h <;> rfl

/-- The name of a column has no join in it, and neither has what is asked about it. -/
theorem TestsColumn.noJoin_line (h : f.TestsColumn column)
    (hcolumn : column ∈ Catalog.columns.map Column.ref) (d : Dialect) (nested : Bool) :
    EachText NoJoin (f.line d nested) := by
  have hname : ∀ column ∈ Catalog.columns.map Column.ref, NoJoin column.text := by
    decide +kernel
  have htext : ∀ s, NoJoin s → NoJoin (column.text ++ s) := fun s hs => (hname column hcolumn).append hs
  cases h with
  | compare op value =>
      rw [line_compare]
      exact .text (htext _ (by cases op <;> decide)) (.value .nil)
  | between low high =>
      rw [line_between]
      exact .text (htext _ (by decide)) (.value (.text (by decide) (.value .nil)))
  | like negated pattern =>
      rw [line_like]
      exact .text (htext _ (by cases negated <;> decide)) (.value (.text (by decide) .nil))
  | isNull negated =>
      rw [line_isNull]
      exact .text (htext _ (by cases negated <;> decide)) .nil

/-- A test of a catalog column that has its table joined, if that has to be joined at all. -/
def TestsJoined (joins : List Join) (f : Formula) : Prop :=
  ∃ c ∈ Catalog.columns, f.TestsColumn c.ref ∧ ∀ j, c.dataset.join? = some j → j ∈ joins

end Formula

/-- Filters that have their tables joined make a well-scoped subquery. -/
theorem Subquery.wellScoped_of_filters {q : Subquery}
    (hfilters : ∀ f ∈ q.filters, f.TestsJoined q.scope.joins)
    (hwindow : ∀ w, q.scope.window = some w ∨ q.bound = some w → 1 ≤ w.length)
    (hcount : ∀ n, q.scope.minCount = some n → 1 ≤ n) : q.WellScoped := by
  -- A column is that of a filter, and the name of its table says which dataset it is from.
  have hjoin : ∀ column ∈ ownColumnsOf q.filters, ∀ j : Join, ∀ dataset : Dataset,
      dataset.join? = some j → column.table = dataset.tableName → j ∈ q.scope.joins := by
    intro column hcolumn j dataset hj htable
    rw [ownColumnsOf_eq_flatMap, List.mem_flatMap] at hcolumn
    obtain ⟨f, hf, hcolumn⟩ := hcolumn
    obtain ⟨c, -, htest, hjoined⟩ := hfilters f hf
    rw [htest.ownColumns_eq, List.mem_singleton] at hcolumn
    subst hcolumn
    have hname : ∀ d d' : Dataset, d.tableName = d'.tableName → d = d' := by
      intro d d'
      cases d <;> cases d' <;> decide
    exact hjoined j (hname _ _ htable ▸ hj)
  refine ⟨fun column h => hjoin column h _ .productLines rfl, fun column h => hjoin column h _ .stores rfl,
    fun d n j => ?_, hwindow, hcount⟩
  refine occurrences_clause_subqueryLine j d n q.scope fun f hf => ?_
  obtain ⟨c, hc, htest, -⟩ := hfilters f hf
  exact htest.noJoin_line (List.mem_map_of_mem hc) d true

/-- A formula is well scoped if it has one well-scoped subquery, whose filters have none. -/
theorem Formula.wellScoped_of_subquery {f : Formula} {q : Subquery}
    (hcolumns : f.columns = columnsOf q.filters) (hown : f.ownColumns = [])
    (hsubqueries : f.subqueries = q :: subqueriesOf q.filters)
    (hfilters : ∀ f ∈ q.filters, f.TestsJoined q.scope.joins) (hq : q.WellScoped) : f.WellScoped where
  overCatalog column hcolumn := by
    rw [hcolumns, columnsOf_eq_flatMap, List.mem_flatMap] at hcolumn
    obtain ⟨g, hg, hcolumn⟩ := hcolumn
    obtain ⟨c, hc, htest, -⟩ := hfilters g hg
    rw [htest.columns_eq, List.mem_singleton] at hcolumn
    exact hcolumn ▸ List.mem_map_of_mem hc
  own column hcolumn := by
    rw [hown] at hcolumn
    exact nomatch hcolumn
  subqueries q' hq' := by
    rw [hsubqueries, List.mem_cons, subqueriesOf_eq_flatMap, List.mem_flatMap] at hq'
    rcases hq' with rfl | ⟨g, hg, hq'⟩
    · exact hq
    · obtain ⟨c, -, htest, -⟩ := hfilters g hg
      rw [htest.subqueries_eq] at hq'
      exact nomatch hq'

/-! ## Conditions -/

namespace Stored

theorem Attribute.catalogColumn_mem {a : Attribute} {c : Column} (h : a.catalogColumn = .ok c) :
    c ∈ Catalog.columns := by
  have hfound : (if Text.isAllBlank a.dataset then Catalog.locate a.column
      else Catalog.lookup a.dataset a.column) = some c := by
    simp only [catalogColumn] at h
    split at h
    · next hfound => rwa [Except.ok.inj h] at hfound
    · exact nomatch h
  split at hfound
  · exact List.mem_of_find?_eq_some hfound
  · exact List.mem_of_find?_eq_some hfound

/-- The conditions of an event bring the joins that their filters need. -/
theorem testsJoined_eventFilters {as : List Attribute} {found : List Join × List Formula}
    (h : eventFilters as = .ok found) : ∀ f ∈ found.2, f.TestsJoined found.1 := by
  induction as generalizing found with
  | nil =>
      obtain rfl := Except.ok.inj h
      exact fun f hf => nomatch hf
  | cons a as ih =>
      obtain ⟨c, hc, f, hf, rest, hrest, rfl⟩ := eventFilters_cons_eq_ok_iff.1 h
      intro g hg
      rcases List.mem_cons.1 hg with rfl | hg
      · refine ⟨c, a.catalogColumn_mem hc, a.testsColumn hf, fun j hj => ?_⟩
        simp [hj]
      · obtain ⟨c', hc', htest, hjoined⟩ := ih hrest g hg
        exact ⟨c', hc', htest, fun j hj => List.mem_append_right _ (hjoined j hj)⟩

theorem Attribute.wellScoped {a : Attribute} {f : Formula} (h : a.formula = .ok f) : f.WellScoped := by
  obtain ⟨c, hc, predicate, hpredicate, rfl⟩ := formula_eq_ok_iff.1 h
  have hmem := a.catalogColumn_mem hc
  have htest := a.testsColumn hpredicate
  split
  · next hcustomers =>
      refine ⟨fun column hcolumn => ?_, fun column hcolumn => ?_, fun q hq => ?_⟩
      · rw [htest.columns_eq, List.mem_singleton] at hcolumn
        exact hcolumn ▸ List.mem_map_of_mem hmem
      · rw [htest.ownColumns_eq, List.mem_singleton] at hcolumn
        rw [hcolumn, Column.ref, hcustomers]
        rfl
      · rw [htest.subqueries_eq] at hq
        exact nomatch hq
  · have hfilters : ∀ f ∈ [predicate], f.TestsJoined c.dataset.join?.toList := by
      refine List.forall_mem_singleton.2 ⟨c, hmem, htest, fun j hj => ?_⟩
      rw [hj]
      exact List.mem_singleton_self j
    exact Formula.wellScoped_of_subquery (q := ⟨⟨c.dataset.join?.toList, none, none⟩, [predicate], none⟩)
      rfl rfl rfl hfilters (Subquery.wellScoped_of_filters hfilters (by simp) (by simp))

theorem Event.wellScoped {e : Event} {f : Formula} (h : e.formula = .ok f) : f.WellScoped := by
  obtain ⟨⟨joins, filters⟩, hfound, rfl⟩ := formula_eq_ok_iff.1 h
  have hfilters := testsJoined_eventFilters hfound
  have hwindow : ∀ w, e.window? = some w → 1 ≤ w.length := fun w => e.one_le_length
  have hextreme : ∀ extreme, (extremeFormula extreme joins filters e.window?).WellScoped := by
    intro extreme
    cases hw : e.window? with
    | none =>
        exact Formula.wellScoped_of_subquery (q := ⟨⟨joins, none, none⟩, filters, none⟩) rfl rfl rfl
          hfilters (Subquery.wellScoped_of_filters hfilters (by simp) (by simp))
    | some w =>
        exact Formula.wellScoped_of_subquery (q := ⟨⟨joins, none, none⟩, filters, some w⟩) rfl rfl rfl
          hfilters (Subquery.wellScoped_of_filters hfilters (by simpa using hwindow w hw) (by simp))
  cases (Term.parse e.type : EventType) with
  | performed =>
      exact Formula.wellScoped_of_subquery
        (q := ⟨⟨joins, e.window?, some (max e.count 1)⟩, filters, none⟩) rfl rfl rfl hfilters
        (Subquery.wellScoped_of_filters hfilters (by simpa using hwindow)
          (by simpa using one_le_max_one e.count))
  | notPerformed =>
      exact Formula.wellScoped_of_subquery (q := ⟨⟨joins, e.window?, none⟩, filters, none⟩) rfl rfl rfl
        hfilters (Subquery.wellScoped_of_filters hfilters (by simpa using hwindow) (by simp))
  | firstTime => exact hextreme .first
  | lastTime => exact hextreme .last

theorem Condition.wellScoped {c : Condition} {f : Formula} (h : c.formula = .ok f) : f.WellScoped := by
  match c with
  | .attribute a => exact a.wellScoped h
  | .event e => exact e.wellScoped h

/-! ## Segments -/

theorem wellScoped_formulas {cs : List Condition} {fs : List Formula} (h : formulas cs = .ok fs) :
    ∀ f ∈ fs, f.WellScoped := by
  induction cs generalizing fs with
  | nil =>
      obtain rfl := Except.ok.inj h
      exact fun f hf => nomatch hf
  | cons c cs ih =>
      obtain ⟨f, hf, rest, hrest, rfl⟩ := formulas_cons_eq_ok_iff.1 h
      exact List.forall_mem_cons.2 ⟨Condition.wellScoped hf, ih hrest⟩

theorem wellScoped_groupFormulas {gs : List Group} {fs : List Formula} (h : groupFormulas gs = .ok fs) :
    ∀ f ∈ fs, f.WellScoped := by
  induction gs generalizing fs with
  | nil =>
      obtain rfl := Except.ok.inj h
      exact fun f hf => nomatch hf
  | cons g gs ih =>
      obtain ⟨ms, hms, rest, hrest, rfl⟩ := groupFormulas_cons_eq_ok_iff.1 h
      split
      · exact ih hrest
      · exact List.forall_mem_cons.2 ⟨.junction (wellScoped_formulas hms), ih hrest⟩

theorem Tree.wellScoped_formula {t : Tree} {d : Dialect} {p : Predicate} (h : t.predicate d = .ok p) :
    p.formula.WellScoped := by
  obtain ⟨cs, hcs, gs, hgs, rfl⟩ := predicate_eq_ok_iff.1 h
  split
  · exact Formula.wellScoped_always
  · exact .junction (List.forall_mem_append.2 ⟨wellScoped_formulas hcs, wellScoped_groupFormulas hgs⟩)

end Stored

/-! ## Where subqueries are written -/

theorem line_isInfix_itemsLine (d : Dialect) (logic : Logic) {f : Formula} {fs : List Formula}
    (hf : f ∈ fs) : f.line d true <:+: itemsLine d logic fs :=
  (layout_isInfix_layoutItems logic hf).flatMap _

/-- A subquery in the filters of another one is written within it. -/
theorem subqueryLine_isInfix_of_filters {d : Dialect} {scope : Scope} {filters : List Formula}
    (h : ∀ f ∈ filters, ∀ q ∈ f.subqueries, subqueryLine d q.scope q.filters <:+: f.line d true)
    {q : Subquery} (hq : q ∈ subqueriesOf filters) :
    subqueryLine d q.scope q.filters <:+: subqueryLine d scope filters := by
  rw [subqueriesOf_eq_flatMap, List.mem_flatMap] at hq
  obtain ⟨f, hf, hq⟩ := hq
  have hitem := (h f hf q hq).trans (line_isInfix_itemsLine d .and hf)
  exact hitem.trans ⟨lineOf d scope.opening, lineOf d scope.closing, rfl⟩

/-- The line of a subquery stands in that of the formula. -/
theorem Formula.subqueryLine_isInfix (d : Dialect) (f : Formula) :
    ∀ nested, ∀ q ∈ f.subqueries, subqueryLine d q.scope q.filters <:+: f.line d nested := by
  induction f using Formula.forall_of_items with
  | always => exact fun _ _ hq => nomatch hq
  | compare column op value => exact fun _ _ hq => nomatch hq
  | between column low high => exact fun _ _ hq => nomatch hq
  | like negated column pattern => exact fun _ _ hq => nomatch hq
  | isNull negated column => exact fun _ _ hq => nomatch hq
  | existence negated scope filters ih =>
      intro nested q hq
      have hwhole : subqueryLine d scope filters
          <:+: (Formula.exists negated scope filters).line d nested := by
        rw [line_exists]
        exact ⟨[_], [_], rfl⟩
      rw [Formula.subqueries, List.mem_cons] at hq
      rcases hq with rfl | hq
      · exact hwhole
      · exact (subqueryLine_isInfix_of_filters (fun f hf => ih f hf true) hq).trans hwhole
  | eventDate extreme scope filters window ih =>
      intro nested q hq
      have hwhole : subqueryLine d scope filters
          <:+: (Formula.eventDate extreme scope filters window).line d nested := by
        rw [line_eventDate]
        exact ⟨[_], _, rfl⟩
      rw [Formula.subqueries, List.mem_cons] at hq
      rcases hq with rfl | hq
      · exact hwhole
      · exact (subqueryLine_isInfix_of_filters (fun f hf => ih f hf true) hq).trans hwhole
  | junction logic items ih =>
      intro nested q hq
      rw [Formula.subqueries, subqueriesOf_eq_flatMap, List.mem_flatMap] at hq
      obtain ⟨f, hf, hq⟩ := hq
      obtain ⟨inner, hinner⟩ := layout_isInfix_junction logic hf nested
      exact (ih f hf inner q hq).trans (hinner.flatMap _)

/-- The text of a subquery stands in the statement. -/
theorem Predicate.exists_sql_eq (p : Predicate) {q : Subquery} (hq : q ∈ p.formula.subqueries) :
    ∃ before n after, p.sql = before ++ q.text p.dialect n ++ after := by
  obtain ⟨before, after, hline⟩ := p.formula.subqueryLine_isInfix p.dialect false q hq
  have hsql : p.sql = statement p.dialect 0 (p.formula.line p.dialect false) := p.sql_eq_statement
  rw [hsql, ← hline, statement_append, statement_append]
  exact ⟨_, _, _, rfl⟩

/-- **Compiled segments are well scoped.** Every column is in the catalog under the name of its table.
Outside of subqueries only customers are asked for; a subquery joins each table that its filters ask for
and writes that join once; it looks back over some time if it looks back at all, and asks for one
transaction at least if it counts them. These are the subqueries that stand in the statement. -/
theorem Stored.Tree.predicate_wellScoped {t : Stored.Tree} {d : Dialect} {p : Predicate}
    (h : t.predicate d = .ok p) :
    p.formula.WellScoped ∧
    ∀ q ∈ p.formula.subqueries, ∃ before n after, p.sql = before ++ q.text p.dialect n ++ after :=
  ⟨Tree.wellScoped_formula h, fun _ hq => p.exists_sql_eq hq⟩

/-- Customers who bought something in Hue, where the conditions come out of order, two of them bring the same
join, and the count that is stored is none. -/
def Stored.Tree.patrons : Stored.Tree :=
  ⟨1, .and, [.event ⟨1, "purchase", "performed", "at_least", -3, some "weeks", some 2, [
    ⟨1, "stores", "city", "equals", "Hue", "", .and, false, false⟩,
    ⟨2, "product_lines", "category", "equals", "Books", "", .and, false, false⟩,
    ⟨3, "stores", "region", "is_not_null", "", "", .and, false, false⟩], .and⟩], []⟩

theorem Stored.Tree.predicate_wellScoped_patrons :
    ∃ p, Stored.Tree.patrons.predicate .sqlite = .ok p ∧ p.formula.WellScoped ∧
      ∃ q ∈ p.formula.subqueries, q.scope.joins = [.stores, .productLines, .stores] ∧
        ∃ before n after, p.sql = before ++ q.text .sqlite n ++ after := by
  obtain ⟨p, hp⟩ : ∃ p, Stored.Tree.patrons.predicate .sqlite = .ok p := ⟨_, rfl⟩
  obtain ⟨hscoped, hwritten⟩ := Stored.Tree.predicate_wellScoped hp
  obtain rfl := Except.ok.inj hp
  exact ⟨_, rfl, hscoped, _, List.mem_cons_self, rfl, hwritten _ List.mem_cons_self⟩

end Audience
