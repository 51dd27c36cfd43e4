import Audience.Proofs.Sql.Line
import Audience.Proofs.Sql.Subquery

set_option autoImplicit false

/-! # The lines of formulas

How the line of a formula is made of the lines of its parts, and that it gives its own lexemes
(`Formula.clean_line`): whatever may end within a word is followed by a space, a closing parenthesis or
nothing at all. -/

namespace Audience

open Sql

/-! ## Lines of parts -/

/-- Pieces in a dialect. -/
def lineOf (d : Dialect) (pieces : List Piece) : List Token :=
  pieces.flatMap (Piece.tokens d)

/-- The line of a formula in a dialect. -/
def Formula.line (d : Dialect) (nested : Bool) (f : Formula) : List Token :=
  lineOf d (f.layout nested)

/-- The line of the items of a junction after the first. -/
def itemsLine (d : Dialect) (logic : Logic) (fs : List Formula) : List Token :=
  lineOf d (layoutItems logic fs)

/-- The line of a subquery from its tables to its least count. -/
def subqueryLine (d : Dialect) (scope : Scope) (filters : List Formula) : List Token :=
  lineOf d scope.opening ++ itemsLine d .and filters ++ lineOf d scope.closing

/-- Filters are written like the further items of an AND. -/
theorem layoutFilters_eq (fs : List Formula) : layoutFilters fs = layoutItems .and fs := by
  induction fs with
  | nil => rfl
  | cons f fs ih =>
      rw [layoutFilters, layoutItems, ih]
      rfl

section Lines

variable (d : Dialect)

@[simp] theorem toString_self (s : String) : toString s = s := rfl

@[simp] theorem lineOf_nil : lineOf d [] = [] := rfl

@[simp] theorem lineOf_text (s : String) (pieces : List Piece) :
    lineOf d (.text s :: pieces) = .text s :: lineOf d pieces := rfl

@[simp] theorem lineOf_value (v : Scalar) (pieces : List Piece) :
    lineOf d (.value v :: pieces) = .value v :: lineOf d pieces := rfl

@[simp] theorem lineOf_windowStart (w : Window) (pieces : List Piece) :
    lineOf d (.windowStart w :: pieces) = w.start d ++ lineOf d pieces := rfl

@[simp] theorem lineOf_append (pieces pieces' : List Piece) :
    lineOf d (pieces ++ pieces') = lineOf d pieces ++ lineOf d pieces' :=
  List.flatMap_append

theorem itemsLine_cons (logic : Logic) (f : Formula) (fs : List Formula) :
    itemsLine d logic (f :: fs)
      = .text (" " ++ (logic.name ++ " ")) :: (f.line d true ++ itemsLine d logic fs) := by
  simp [itemsLine, layoutItems, Formula.line, String.append_assoc]

namespace Formula

variable (nested : Bool)

theorem line_always : always.line d nested = [.text "TRUE"] := by
  simp [line, layout]

theorem line_compare (column : ColumnRef) (op : Comparison) (value : Scalar) :
    (compare column op value).line d nested
      = [.text (column.text ++ (" " ++ (op.symbol ++ " "))), .value value] := by
  simp [line, layout, String.append_assoc]

theorem line_between (column : ColumnRef) (low high : Scalar) :
    (between column low high).line d nested
      = [.text (column.text ++ " BETWEEN "), .value low, .text " AND ", .value high] := by
  simp [line, layout]

theorem line_like (negated : Bool) (column : ColumnRef) (pattern : String) :
    (like negated column pattern).line d nested
      = [.text (column.text ++ (" " ++ (notIf negated ++ "LIKE "))), .value (.text pattern),
        .text " ESCAPE '\\'"] := by
  simp [line, layout, String.append_assoc]

theorem line_isNull (negated : Bool) (column : ColumnRef) :
    (isNull negated column).line d nested
      = [.text (column.text ++ (" IS " ++ (notIf negated ++ "NULL")))] := by
  simp [line, layout, String.append_assoc]

theorem line_exists (negated : Bool) (scope : Scope) (filters : List Formula) :
    (Formula.exists negated scope filters).line d nested
      = .text (notIf negated ++ "EXISTS (SELECT 1")
        :: (subqueryLine d scope filters ++ [.text ")"]) := by
  simp [line, layout, subqueryLine, itemsLine, layoutFilters_eq]

theorem line_eventDate (extreme : Extreme) (scope : Scope) (filters : List Formula)
    (window : Window) :
    (eventDate extreme scope filters window).line d nested
      = .text ("(SELECT " ++ (extreme.function ++ "(t.transaction_date)"))
        :: (subqueryLine d scope filters ++ .text ") >= " :: window.start d) := by
  simp [line, layout, subqueryLine, itemsLine, layoutFilters_eq, String.append_assoc]

theorem line_junction_nil (logic : Logic) : (junction logic []).line d nested = [.text "TRUE"] := by
  simp [line, layout]

theorem line_junction_single (logic : Logic) (f : Formula) :
    (junction logic [f]).line d nested = f.line d nested := by
  simp [line, layout]

/-- A junction of several items that stands on its own. -/
theorem line_junction (logic : Logic) (f g : Formula) (fs : List Formula) :
    (junction logic (f :: g :: fs)).line d false
      = f.line d true ++ itemsLine d logic (g :: fs) := by
  simp [line, layout, itemsLine]

/-- A junction of several items that stands within something else. -/
theorem line_junction_nested (logic : Logic) (f g : Formula) (fs : List Formula) :
    (junction logic (f :: g :: fs)).line d true
      = .text "(" :: ((junction logic (f :: g :: fs)).line d false ++ [.text ")"]) := by
  simp [line, layout]

end Formula

end Lines

/-! ## Lines of the closing of a subquery -/

theorem lineOf_closing_window (d : Dialect) (joins : List Join) (w : Window) (minCount : Option Int64) :
    lineOf d (Scope.closing ⟨joins, some w, minCount⟩)
      = .text " AND t.transaction_date >= "
        :: (w.start d ++ lineOf d (Scope.closing ⟨joins, none, minCount⟩)) := rfl

theorem lineOf_closing_count (d : Dialect) (joins : List Join) (n : Int64) :
    lineOf d (Scope.closing ⟨joins, none, some n⟩)
      = [.text " GROUP BY t.customer_id HAVING COUNT(*) >= ", .value (.int n)] := rfl

/-! ## Texts of lines of parts -/

section EachText

variable {P : String → Prop} {d : Dialect}

theorem eachText_start (hinterval : ∀ unit : TimeUnit, P ("NOW() - make_interval(" ++ Term.code unit ++ " => "))
    (hmodifier : P "date('now', ") (hclosing : P ")") (d : Dialect) (w : Window) :
    EachText P (w.start d) := by
  cases d with
  | postgres => exact .text (hinterval w.unit) (.value (.text hclosing .nil))
  | sqlite => exact .text hmodifier (.value (.text hclosing .nil))

theorem eachText_itemsLine {logic : Logic} (hlogic : P (" " ++ (logic.name ++ " "))) {fs : List Formula}
    (h : ∀ f ∈ fs, EachText P (f.line d true)) : EachText P (itemsLine d logic fs) := by
  induction fs with
  | nil => exact .nil
  | cons f fs ih =>
      rw [itemsLine_cons]
      exact .text hlogic
        (.append (h f List.mem_cons_self) (ih fun g hg => h g (List.mem_cons_of_mem _ hg)))

theorem eachText_closing (hdate : P " AND t.transaction_date >= ")
    (hcount : P " GROUP BY t.customer_id HAVING COUNT(*) >= ") {scope : Scope}
    (hstart : ∀ w : Window, EachText P (w.start d)) : EachText P (lineOf d scope.closing) := by
  obtain ⟨joins, window, minCount⟩ := scope
  have hleast : EachText P (lineOf d (Scope.closing ⟨joins, none, minCount⟩)) := by
    cases minCount with
    | none => exact .nil
    | some n => exact .text hcount (.value .nil)
  cases window with
  | none => exact hleast
  | some w =>
      rw [lineOf_closing_window]
      exact .text hdate (.append (hstart w) hleast)

end EachText

/-! ## Placeholders of lines -/

theorem parameters_start (d : Dialect) (w : Window) :
    parameters (w.start d) = [(Binding.amount w).scalar d] := by
  cases d <;> rfl

theorem parameters_opening (d : Dialect) (scope : Scope) : parameters (lineOf d scope.opening) = [] :=
  rfl

theorem parameters_closing (d : Dialect) (scope : Scope) :
    parameters (lineOf d scope.closing) = scope.bindings.map (Binding.scalar d) := by
  obtain ⟨joins, window, minCount⟩ := scope
  cases window <;> cases minCount <;>
    simp [Scope.closing, Scope.bindings, parameters_start, Binding.scalar]

/-- Lines of formulas that bind what the formulas bind make such a line together. -/
theorem parameters_itemsLine {d : Dialect} (logic : Logic) {fs : List Formula}
    (h : ∀ f ∈ fs, parameters (f.line d true) = f.bindings.map (Binding.scalar d)) :
    parameters (itemsLine d logic fs) = (bindingsOf fs).map (Binding.scalar d) := by
  induction fs with
  | nil => rfl
  | cons f fs ih =>
      rw [itemsLine_cons, parameters_text, parameters_append, bindingsOf, List.map_append,
        h f List.mem_cons_self, ih fun g hg => h g (List.mem_cons_of_mem _ hg)]

theorem parameters_subqueryLine {d : Dialect} (scope : Scope) {fs : List Formula}
    (h : ∀ f ∈ fs, parameters (f.line d true) = f.bindings.map (Binding.scalar d)) :
    parameters (subqueryLine d scope fs) = (bindingsOf fs ++ scope.bindings).map (Binding.scalar d) := by
  rw [subqueryLine, parameters_append, parameters_append, parameters_opening, List.nil_append,
    parameters_itemsLine .and h, parameters_closing, List.map_append]

/-- The line of a formula binds what the formula does, in order, wherever the formula stands. -/
theorem Formula.parameters_line (d : Dialect) (f : Formula) :
    ∀ nested, parameters (f.line d nested) = f.bindings.map (Binding.scalar d) := by
  induction f using Formula.forall_of_items with
  | always => intro nested; simp [line_always, bindings]
  | compare column op value => intro nested; simp [line_compare, bindings, Binding.scalar]
  | between column low high => intro nested; simp [line_between, bindings, Binding.scalar]
  | like negated column pattern => intro nested; simp [line_like, bindings, Binding.scalar]
  | isNull negated column => intro nested; simp [line_isNull, bindings]
  | existence negated scope filters ih =>
      intro nested
      rw [line_exists, parameters_text, parameters_append, bindings,
        parameters_subqueryLine scope fun f hf => ih f hf true]
      exact List.append_nil _
  | eventDate extreme scope filters window ih =>
      intro nested
      rw [line_eventDate, parameters_text, parameters_append, bindings,
        parameters_subqueryLine scope fun f hf => ih f hf true, parameters_text, parameters_start]
      simp only [List.map_append, List.map_cons, List.map_nil]
  | junction logic items ih =>
      have hjoined : ∀ f g fs, items = f :: g :: fs →
          parameters ((junction logic items).line d false)
            = (junction logic items).bindings.map (Binding.scalar d) := by
        rintro f g fs rfl
        rw [line_junction, parameters_append, bindings, bindingsOf, List.map_append,
          ih f List.mem_cons_self true,
          parameters_itemsLine logic fun x hx => ih x (List.mem_cons_of_mem _ hx) true]
      intro nested
      rcases items with _ | ⟨f, _ | ⟨g, fs⟩⟩
      · simp [line_junction_nil, bindings, bindingsOf]
      · rw [line_junction_single, ih f List.mem_cons_self nested, bindings, bindingsOf, bindingsOf,
          List.append_nil]
      · cases nested with
        | false => exact hjoined f g fs rfl
        | true =>
            rw [line_junction_nested, parameters_text, parameters_append, hjoined f g fs rfl]
            exact List.append_nil _

/-! The numbers of placeholders follow. -/

section Counts

variable (d : Dialect)

@[simp] theorem length_parameters_start (w : Window) : (parameters (w.start d)).length = 1 := by
  rw [parameters_start, List.length_singleton]

theorem Formula.length_parameters_line (f : Formula) (nested : Bool) :
    (parameters (f.line d nested)).length = f.slots := by
  rw [f.parameters_line, List.length_map, f.length_bindings]

theorem length_parameters_itemsLine (logic : Logic) (fs : List Formula) :
    (parameters (itemsLine d logic fs)).length = slotsOf fs := by
  rw [parameters_itemsLine logic fun f _ => f.parameters_line d true, List.length_map,
    length_bindingsOf fun f _ => f.length_bindings]

theorem length_parameters_subqueryLine (scope : Scope) (fs : List Formula) :
    (parameters (subqueryLine d scope fs)).length = slotsOf fs + scope.slots := by
  rw [parameters_subqueryLine scope fun f _ => f.parameters_line d true, List.length_map,
    List.length_append, length_bindingsOf fun f _ => f.length_bindings, scope.length_bindings]

end Counts

/-! ## Texts of lines -/

/-- The name of a catalog column is three lexemes, the last of them a word. -/
theorem lex_column : ∀ column ∈ Catalog.columns.map Column.ref,
    Closed column.text ∧ lex column.text = columnLexemes column := by
  decide +kernel

/-- What is said about a column, after its name. -/
theorem whole_column {column : ColumnRef} (h : column ∈ Catalog.columns.map Column.ref) {s : String}
    (hapart : StartsApart s) (hs : Whole s) :
    Whole (column.text ++ s) ∧ lex (column.text ++ s) = columnLexemes column ++ lex s := by
  obtain ⟨hclosed, hlex⟩ := lex_column column h
  exact ⟨.append hclosed hapart hs, by rw [lex_append hclosed hapart, hlex]⟩

theorem lex_true : Closed "TRUE" ∧ lex "TRUE" = [.key .true] := by
  decide

theorem lex_opening : Whole "(" ∧ lex "(" = [.opening] := by
  decide

theorem lex_closing : StartsApart ")" ∧ Whole ")" ∧ lex ")" = [.closing] := by
  decide

theorem lex_symbol (op : Comparison) :
    StartsApart (" " ++ (op.symbol ++ " ")) ∧ Whole (" " ++ (op.symbol ++ " ")) ∧
      lex (" " ++ (op.symbol ++ " ")) = [.comparison op] := by
  cases op <;> decide +kernel

theorem lex_and : StartsApart " AND " ∧ Whole " AND " ∧ lex " AND " = [.key .and] := by
  decide

theorem lex_between :
    StartsApart " BETWEEN " ∧ Whole " BETWEEN " ∧ lex " BETWEEN " = [.key .between] := by
  decide +kernel

/-- The lexeme of a negation, if there is one. -/
def notLexemes (negated : Bool) : List Lexeme :=
  if negated then [.key .not] else []

theorem lex_like (negated : Bool) :
    StartsApart (" " ++ (notIf negated ++ "LIKE ")) ∧ Whole (" " ++ (notIf negated ++ "LIKE ")) ∧
      lex (" " ++ (notIf negated ++ "LIKE ")) = notLexemes negated ++ [.key .like] := by
  cases negated <;> decide +kernel

theorem lex_escape : StartsApart " ESCAPE '\\'" ∧ Whole " ESCAPE '\\'" ∧
    lex " ESCAPE '\\'" = [.key .escape, .quoted ['\\']] := by
  decide +kernel

theorem lex_isNull (negated : Bool) :
    StartsApart (" IS " ++ (notIf negated ++ "NULL")) ∧
      Closed (" IS " ++ (notIf negated ++ "NULL")) ∧
      lex (" IS " ++ (notIf negated ++ "NULL")) = .key .is :: (notLexemes negated ++ [.key .null]) := by
  cases negated <;> decide +kernel

theorem lex_exists (negated : Bool) :
    Closed (notIf negated ++ "EXISTS (SELECT 1") ∧
      lex (notIf negated ++ "EXISTS (SELECT 1")
        = notLexemes negated ++ [.key .exists, .opening, .key .select, .number 1] := by
  cases negated <;> decide +kernel

/-- The lexeme of the function that takes the first or the last date. -/
def extremeLexeme : Extreme → Lexeme
  | .first => .key .min
  | .last => .key .max

theorem lex_eventDate (extreme : Extreme) :
    Whole ("(SELECT " ++ (extreme.function ++ "(t.transaction_date)")) ∧
      lex ("(SELECT " ++ (extreme.function ++ "(t.transaction_date)"))
        = [.opening, .key .select, extremeLexeme extreme, .opening]
          ++ columnLexemes transactionDate ++ [.closing] := by
  cases extreme <;> decide +kernel

theorem lex_atLeast : StartsApart ") >= " ∧ Whole ") >= " ∧
    lex ") >= " = [.closing, .comparison .greaterOrEqual] := by
  decide

theorem lex_logic (logic : Logic) :
    StartsApart (" " ++ (logic.name ++ " ")) ∧ Whole (" " ++ (logic.name ++ " ")) ∧
      lex (" " ++ (logic.name ++ " ")) = [separator logic] := by
  cases logic <;> decide +kernel

theorem lex_interval (unit : TimeUnit) :
    Whole ("NOW() - make_interval(" ++ Term.code unit ++ " => ") ∧
      lex ("NOW() - make_interval(" ++ Term.code unit ++ " => ")
        = [.key .now, .opening, .closing, .minus, .key .makeInterval, .opening,
          .name (Term.code unit), .arrow] := by
  cases unit <;> decide +kernel

theorem lex_modifier : Whole "date('now', " ∧
    lex "date('now', " = [.key .date, .opening, .quoted ['n', 'o', 'w'], .comma] := by
  decide +kernel

theorem lex_since : StartsApart " AND t.transaction_date >= " ∧
    Whole " AND t.transaction_date >= " ∧
    lex " AND t.transaction_date >= "
      = .key .and :: (columnLexemes transactionDate ++ [.comparison .greaterOrEqual]) := by
  decide +kernel

theorem lex_count : StartsApart " GROUP BY t.customer_id HAVING COUNT(*) >= " ∧
    Whole " GROUP BY t.customer_id HAVING COUNT(*) >= " ∧
    lex " GROUP BY t.customer_id HAVING COUNT(*) >= "
      = [.key .group, .key .by] ++ columnLexemes ⟨"t", "customer_id"⟩ ++ [.key .having, .key .count,
        .opening, .star, .closing, .comparison .greaterOrEqual] := by
  decide +kernel

/-! ## The opening of a subquery -/

theorem lex_clause (j : Join) :
    StartsApart j.clause ∧ Closed j.clause ∧ lex j.clause = joinLexemes j := by
  cases j <;> decide +kernel

/-- Clauses one after the other. -/
def clauses : List Join → String
  | [] => ""
  | j :: js => j.clause ++ clauses js

/-- The joins of a subquery are in order, each of them once. -/
theorem joinClauses_eq (joins : List Join) :
    joinClauses joins = clauses (joinable.filter joins.contains) := by
  unfold joinClauses joinable
  rw [List.filter_cons, List.filter_cons, List.filter_nil]
  cases joins.contains .productLines <;> cases joins.contains .stores <;> simp [clauses]

/-- Clauses are apart from each other and from what follows. -/
theorem lex_clauses_append (js : List Join) {s : String} (hapart : StartsApart s) (hs : Closed s) :
    StartsApart (clauses js ++ s) ∧ Closed (clauses js ++ s) ∧
      lex (clauses js ++ s) = js.flatMap joinLexemes ++ lex s := by
  induction js with
  | nil => simpa [clauses] using ⟨hapart, hs⟩
  | cons j js ih =>
      obtain ⟨hrest, hclosed, hlex⟩ := ih
      obtain ⟨hclause, hclause', hlexemes⟩ := lex_clause j
      rw [clauses, String.append_assoc]
      refine ⟨hclause.append _, hclause'.append hrest hclosed, ?_⟩
      rw [lex_append hclause' hrest, hlex, hlexemes, List.flatMap_cons, List.append_assoc]

/-- The text that opens a subquery. -/
def openingText (joins : List Join) : String :=
  " FROM transactions t" ++ joinClauses joins ++ " WHERE t.customer_id = c.customer_id"

theorem lineOf_opening (d : Dialect) (scope : Scope) :
    lineOf d scope.opening = [.text (openingText scope.joins)] := rfl

theorem lex_from : StartsApart " FROM transactions t" ∧ Closed " FROM transactions t" ∧
    lex " FROM transactions t" = [.key .from, .name "transactions", .name "t"] := by
  decide +kernel

theorem lex_where : StartsApart " WHERE t.customer_id = c.customer_id" ∧
    Closed " WHERE t.customer_id = c.customer_id" ∧
    lex " WHERE t.customer_id = c.customer_id" = .key .where :: customerLexemes := by
  decide +kernel

theorem lex_openingText (joins : List Join) :
    StartsApart (openingText joins) ∧ Closed (openingText joins) ∧
      lex (openingText joins) = openingLexemes (joinable.filter joins.contains) := by
  obtain ⟨hfrom, hfrom', hlexFrom⟩ := lex_from
  obtain ⟨hwhere, hwhere', hlexWhere⟩ := lex_where
  obtain ⟨hrest, hclosed, hlex⟩ :=
    lex_clauses_append (joinable.filter joins.contains) hwhere hwhere'
  unfold openingText openingLexemes
  rw [joinClauses_eq, String.append_assoc]
  refine ⟨hfrom.append _, hfrom'.append hrest hclosed, ?_⟩
  rw [lex_append hfrom' hrest, hlex, hlexFrom, hlexWhere]

/-! ## Clean lines -/

section Clean

variable {d : Dialect}

theorem clean_start (d : Dialect) (w : Window) : Clean d (w.start d) := by
  obtain ⟨unit, length⟩ := w
  cases d with
  | postgres =>
      exact .whole (lex_interval unit).1 (.value (.whole lex_closing.2.1 .nil) (.text lex_closing.1))
  | sqlite => exact .whole lex_modifier.1 (.value (.whole lex_closing.2.1 .nil) (.text lex_closing.1))

/-- Clean lines of formulas make a clean line of items, which finishes what is in front of it. -/
theorem clean_itemsLine (logic : Logic) {fs : List Formula}
    (h : ∀ f ∈ fs, Clean d (f.line d true)) :
    Clean d (itemsLine d logic fs) ∧ Finishing d (itemsLine d logic fs) := by
  induction fs with
  | nil => exact ⟨.nil, .nil⟩
  | cons f fs ih =>
      obtain ⟨hclean, hfinishing⟩ := ih fun g hg => h g (List.mem_cons_of_mem _ hg)
      obtain ⟨hapart, hwhole, _⟩ := lex_logic logic
      rw [itemsLine_cons]
      exact ⟨.whole hwhole (.append (h f List.mem_cons_self) hclean hfinishing), .text hapart⟩

theorem clean_closing (d : Dialect) (scope : Scope) :
    Clean d (lineOf d scope.closing) ∧ Finishing d (lineOf d scope.closing) := by
  obtain ⟨joins, window, minCount⟩ := scope
  have hcount : Clean d (lineOf d (Scope.closing ⟨joins, none, minCount⟩)) ∧
      Finishing d (lineOf d (Scope.closing ⟨joins, none, minCount⟩)) := by
    cases minCount with
    | none => exact ⟨.nil, .nil⟩
    | some n =>
        rw [lineOf_closing_count]
        exact ⟨.whole lex_count.2.1 (.value .nil .nil), .text lex_count.1⟩
  cases window with
  | none => exact hcount
  | some w =>
      rw [lineOf_closing_window]
      exact ⟨.whole lex_since.2.1 (.append (clean_start d w) hcount.1 hcount.2), .text lex_since.1⟩

/-- A subquery with clean filters is clean, as long as something finishes it. -/
theorem clean_subqueryLine (scope : Scope) {fs : List Formula}
    (h : ∀ f ∈ fs, Clean d (f.line d true)) :
    Clean d (subqueryLine d scope fs) ∧ Finishing d (subqueryLine d scope fs) := by
  obtain ⟨hapart, hclosed, _⟩ := lex_openingText scope.joins
  obtain ⟨hitems, hitems'⟩ := clean_itemsLine .and h
  obtain ⟨hclosing, hclosing'⟩ := clean_closing d scope
  have hfirst : Clean d (lineOf d scope.opening) ∧ Finishing d (lineOf d scope.opening) := by
    rw [lineOf_opening]
    exact ⟨.text hclosed .nil .nil, .text hapart⟩
  rw [subqueryLine]
  refine ⟨?_, (hfirst.2.append hitems').append hclosing'⟩
  exact .append (.append hfirst.1 hitems hitems') hclosing hclosing'

/-- **The line of a formula is clean**, wherever the formula stands. -/
theorem Formula.clean_line (d : Dialect) (f : Formula) (hf : f.OverCatalog) :
    ∀ nested, Clean d (f.line d nested) := by
  induction f using Formula.forall_of_items with
  | always =>
      intro nested
      rw [line_always]
      exact .text lex_true.1 .nil .nil
  | compare column op value =>
      intro nested
      obtain ⟨hapart, hwhole, _⟩ := lex_symbol op
      rw [line_compare]
      exact .whole (whole_column (hf _ List.mem_cons_self) hapart hwhole).1 (.value .nil .nil)
  | between column low high =>
      intro nested
      obtain ⟨hapart, hwhole, _⟩ := lex_between
      rw [line_between]
      refine .whole (whole_column (hf _ List.mem_cons_self) hapart hwhole).1 ?_
      exact .value (.whole lex_and.2.1 (.value .nil .nil)) (.text lex_and.1)
  | like negated column pattern =>
      intro nested
      obtain ⟨hapart, hwhole, _⟩ := lex_like negated
      rw [line_like]
      refine .whole (whole_column (hf _ List.mem_cons_self) hapart hwhole).1 ?_
      exact .value (.whole lex_escape.2.1 .nil) (.text lex_escape.1)
  | isNull negated column =>
      intro nested
      obtain ⟨hapart, hclosed, _⟩ := lex_isNull negated
      rw [line_isNull]
      exact .text (.append (lex_column column (hf _ List.mem_cons_self)).1 hapart hclosed) .nil .nil
  | existence negated scope filters ih =>
      intro nested
      obtain ⟨hclean, hfinishing⟩ := clean_subqueryLine scope fun f hmem =>
        ih f hmem (.of_mem hf hmem) true
      rw [line_exists]
      refine .text (lex_exists negated).1 (.append hclean ?_ (.text lex_closing.1)) ?_
      · exact .whole lex_closing.2.1 .nil
      · exact hfinishing.append (.text lex_closing.1)
  | eventDate extreme scope filters window ih =>
      intro nested
      obtain ⟨hclean, _⟩ := clean_subqueryLine scope fun f hmem =>
        ih f hmem (.of_mem hf hmem) true
      rw [line_eventDate]
      refine .whole (lex_eventDate extreme).1 (.append hclean ?_ (.text lex_atLeast.1))
      exact .whole lex_atLeast.2.1 (clean_start d window)
  | junction logic items ih =>
      have hitem : ∀ f ∈ items, ∀ nested, Clean d (f.line d nested) :=
        fun f hmem => ih f hmem (.of_mem hf hmem)
      match items with
      | [] =>
          intro nested
          rw [line_junction_nil]
          exact .text lex_true.1 .nil .nil
      | [f] =>
          intro nested
          rw [line_junction_single]
          exact hitem f List.mem_cons_self nested
      | f :: g :: fs =>
          obtain ⟨hclean, hfinishing⟩ := clean_itemsLine logic fun x hx =>
            hitem x (List.mem_cons_of_mem _ hx) true
          have hjoined : Clean d ((junction logic (f :: g :: fs)).line d false) := by
            rw [line_junction]
            exact .append (hitem f List.mem_cons_self true) hclean hfinishing
          intro nested
          cases nested with
          | false => exact hjoined
          | true =>
              rw [line_junction_nested]
              refine .whole lex_opening.1 (.append hjoined ?_ (.text lex_closing.1))
              exact .whole lex_closing.2.1 .nil

end Clean

end Audience
