import Audience.Proofs.Sql.Renderer

set_option autoImplicit false

/-! # Statements read back

The statement of a formula is read as the expression that the formula states (`Predicate.read?_sql`).
The induction is on the formula, and goes by how it stands: within something else, where it is read
whatever follows it (`Formula.ReadsBack.item`), and on its own, where neither an AND nor an OR may follow
(`Formula.ReadsBack.whole`). A junction of several items is what makes the difference: on its own its
items are those of an expression, and within something else it is in parentheses. -/

namespace Audience

open Sql

/-! ## Lexemes of lines -/

section Lexemes

variable (d : Dialect) (n : Nat)

theorem lexemes_start (w : Window) :
    lexemes n (w.start d) = startLexemes (w.stated d (n + 1)) := by
  cases d with
  | postgres =>
      simp only [Window.start, lexemes, lex_closing.2.2, toString_self]
      rw [(lex_interval w.unit).2]
      rfl
  | sqlite =>
      simp only [Window.start, lexemes, lex_closing.2.2, lex_modifier.2]
      rfl

theorem lexemes_opening (scope : Scope) (m : Nat) :
    lexemes n (lineOf d scope.opening) = openingLexemes (scope.stated d m).joins := by
  rw [lineOf_opening, lexemes, (lex_openingText scope.joins).2.2]
  exact List.append_nil _

theorem lexemes_closing (scope : Scope) :
    lexemes n (lineOf d scope.closing)
      = windowLexemes (scope.stated d n).window ++ countLexemes (scope.stated d n).minCount := by
  obtain ⟨joins, window, minCount⟩ := scope
  have hcount : ∀ n, lexemes n (lineOf d (Scope.closing ⟨joins, none, minCount⟩))
      = countLexemes (minCount.map fun _ => n + 1) := by
    intro n
    cases minCount with
    | none => rfl
    | some m =>
        rw [lineOf_closing_count, lexemes, lex_count.2.2]
        rfl
  cases window with
  | none =>
      rw [hcount]
      rfl
  | some w =>
      rw [lineOf_closing_window, lexemes, lexemes_append, length_parameters_start, lexemes_start,
        hcount, lex_since.2.2]
      simp [Scope.stated, windowLexemes]

theorem lexemes_itemsLine_cons (logic : Logic) (f : Formula) (fs : List Formula) :
    lexemes n (itemsLine d logic (f :: fs)) = separator logic
      :: (lexemes n (f.line d true) ++ lexemes (n + f.slots) (itemsLine d logic fs)) := by
  rw [itemsLine_cons, lexemes, (lex_logic logic).2.2, lexemes_append, f.length_parameters_line]
  rfl

theorem lexemes_subqueryLine (scope : Scope) (fs : List Formula) :
    lexemes n (subqueryLine d scope fs)
      = openingLexemes (scope.stated d (n + slotsOf fs)).joins
        ++ (lexemes n (itemsLine d .and fs)
          ++ (windowLexemes (scope.stated d (n + slotsOf fs)).window
            ++ countLexemes (scope.stated d (n + slotsOf fs)).minCount)) := by
  have hcount : (parameters (itemsLine d .and fs)).length = slotsOf fs :=
    length_parameters_itemsLine d .and fs
  rw [subqueryLine, lexemes_append, lexemes_append, parameters_append, List.length_append,
    parameters_opening, List.length_nil, Nat.zero_add, Nat.add_zero, hcount, lexemes_closing,
    lexemes_opening d n scope (n + slotsOf fs), List.append_assoc]

end Lexemes

namespace Formula

section Lexemes

variable (d : Dialect) (n : Nat) (nested : Bool)

theorem lexemes_always : lexemes n (always.line d nested) = [.key .true] := by
  rw [line_always, lexemes, lex_true.2]
  rfl

theorem lexemes_compare {column : ColumnRef} (h : column ∈ Catalog.columns.map Column.ref)
    (op : Comparison) (value : Scalar) :
    lexemes n ((compare column op value).line d nested)
      = columnLexemes column ++ [.comparison op, .slot (n + 1)] := by
  obtain ⟨hapart, hwhole, hlex⟩ := lex_symbol op
  rw [line_compare, lexemes, (whole_column h hapart hwhole).2, hlex]
  rfl

theorem lexemes_between {column : ColumnRef} (h : column ∈ Catalog.columns.map Column.ref)
    (low high : Scalar) :
    lexemes n ((between column low high).line d nested)
      = columnLexemes column ++ [.key .between, .slot (n + 1), .key .and, .slot (n + 2)] := by
  obtain ⟨hapart, hwhole, hlex⟩ := lex_between
  rw [line_between, lexemes, (whole_column h hapart hwhole).2, hlex, lexemes, lexemes, lex_and.2.2]
  rfl

theorem lexemes_like {column : ColumnRef} (h : column ∈ Catalog.columns.map Column.ref)
    (negated : Bool) (pattern : String) :
    lexemes n ((like negated column pattern).line d nested)
      = columnLexemes column
        ++ (notLexemes negated ++ [.key .like, .slot (n + 1), .key .escape, .quoted ['\\']]) := by
  obtain ⟨hapart, hwhole, hlex⟩ := lex_like negated
  rw [line_like, lexemes, (whole_column h hapart hwhole).2, hlex, lexemes, lexemes, lex_escape.2.2]
  simp [lexemes]

theorem lexemes_isNull {column : ColumnRef} (h : column ∈ Catalog.columns.map Column.ref)
    (negated : Bool) :
    lexemes n ((isNull negated column).line d nested)
      = columnLexemes column ++ .key .is :: (notLexemes negated ++ [.key .null]) := by
  obtain ⟨hapart, _, hlex⟩ := lex_isNull negated
  obtain ⟨hclosed, hcolumn⟩ := lex_column column h
  rw [line_isNull, lexemes, lex_append hclosed hapart, hcolumn, hlex]
  exact List.append_nil _

theorem lexemes_exists (negated : Bool) (scope : Scope) (filters : List Formula) :
    lexemes n ((Formula.exists negated scope filters).line d nested)
      = notLexemes negated ++ [.key .exists, .opening, .key .select, .number 1]
        ++ (lexemes n (subqueryLine d scope filters) ++ [.closing]) := by
  rw [line_exists, lexemes, (lex_exists negated).2, lexemes_append, lexemes, lex_closing.2.2]
  rfl

theorem lexemes_eventDate (extreme : Extreme) (scope : Scope) (filters : List Formula)
    (window : Window) :
    lexemes n ((eventDate extreme scope filters window).line d nested)
      = [.opening, .key .select, extremeLexeme extreme, .opening] ++ columnLexemes transactionDate
        ++ [.closing] ++ (lexemes n (subqueryLine d scope filters)
          ++ (.closing :: .comparison .greaterOrEqual
            :: startLexemes (window.stated d (n + slotsOf filters + scope.slots + 1)))) := by
  have hcount : (parameters (subqueryLine d scope filters)).length = slotsOf filters + scope.slots :=
    length_parameters_subqueryLine d scope filters
  rw [line_eventDate, lexemes, (lex_eventDate extreme).2, lexemes_append, hcount, lexemes,
    lex_atLeast.2.2, lexemes_start, ← Nat.add_assoc n (slotsOf filters)]
  rfl

theorem lexemes_junction (logic : Logic) (f g : Formula) (fs : List Formula) :
    lexemes n ((junction logic (f :: g :: fs)).line d false)
      = lexemes n (f.line d true) ++ lexemes (n + f.slots) (itemsLine d logic (g :: fs)) := by
  rw [line_junction, lexemes_append, f.length_parameters_line]

theorem lexemes_junction_nested (logic : Logic) (f g : Formula) (fs : List Formula) :
    lexemes n ((junction logic (f :: g :: fs)).line d true)
      = .opening :: (lexemes n ((junction logic (f :: g :: fs)).line d false) ++ [.closing]) := by
  rw [line_junction_nested, lexemes, lexemes_append, lex_opening.2, lexemes, lex_closing.2.2]
  rfl

end Lexemes

/-! ## Reading formulas back -/

/-- No formula is a bound on dates, which only the condition of a subquery may have. -/
theorem isSince_stated (d : Dialect) (f : Formula) : ∀ n, (f.stated d n).isSince = false := by
  induction f using forall_of_items with
  | always => intro n; rfl
  | compare column op value => intro n; rfl
  | between column low high => intro n; rfl
  | like negated column pattern => intro n; rfl
  | isNull negated column => intro n; rfl
  | existence negated scope filters _ => intro n; rfl
  | eventDate extreme scope filters window _ => intro n; rfl
  | junction logic items ih =>
      intro n
      match items with
      | [] => rfl
      | [f] => exact ih f List.mem_cons_self n
      | f :: g :: fs => rfl

theorem isSince_of_mem_statedAll {d : Dialect} {n : Nat} {fs : List Formula} {e : Expr}
    (h : e ∈ statedAll d n fs) : e.isSince = false := by
  induction fs generalizing n with
  | nil => simp [statedAll] at h
  | cons f fs ih =>
      rw [statedAll] at h
      rcases List.mem_cons.1 h with rfl | h
      · exact f.isSince_stated d n
      · exact ih h

/-- How a formula is read with so many levels of parentheses around it. -/
structure ReadsBack (d : Dialect) (depth : Nat) (f : Formula) : Prop where
  item : ∀ n, Reads (primary (expr depth)) (lexemes n (f.line d true)) (f.stated d n)
  whole : ∀ n rest, Ends rest →
    expr (depth + 1) (lexemes n (f.line d false) ++ rest) = some (f.stated d n, rest)

/-- What is written the same wherever it stands is also read the same. -/
theorem ReadsBack.of_item {d : Dialect} {depth : Nat} {f : Formula}
    (hline : f.line d false = f.line d true)
    (h : ∀ n, Reads (primary (expr depth)) (lexemes n (f.line d true)) (f.stated d n)) :
    f.ReadsBack d depth where
  item := h
  whole n rest hrest := by
    rw [hline]
    exact expr_single (h n) hrest

/-- Formulas that are read back are read back as the further items of a junction. -/
theorem separated_items {d : Dialect} {depth : Nat} (logic : Logic) {fs : List Formula}
    (h : ∀ f ∈ fs, f.ReadsBack d depth) (n : Nat) :
    Separated (fun _ => True) (separator logic) (primary (expr depth))
      (lexemes n (itemsLine d logic fs)) (statedAll d n fs) := by
  induction fs generalizing n with
  | nil => exact .nil
  | cons f fs ih =>
      have hf := (h f List.mem_cons_self).item n
      rw [lexemes_itemsLine_cons, statedAll]
      exact .cons (hf.readsTo _) (ih (fun g hg => h g (List.mem_cons_of_mem _ hg)) _)

/-- Filters that are read back are read back in a subquery. -/
theorem subquery_filters {d : Dialect} {depth : Nat} (scope : Scope) {fs : List Formula}
    (h : ∀ f ∈ fs, f.ReadsBack d depth) (n : Nat) (rest : List Lexeme) :
    subquery (expr (depth + 1)) (lexemes n (subqueryLine d scope fs) ++ .closing :: rest)
      = some ((scope.stated d (n + slotsOf fs), statedAll d n fs), rest) := by
  rw [lexemes_subqueryLine]
  simp only [List.append_assoc]
  exact subquery_eq (separated_items .and h n) (fun e he => isSince_of_mem_statedAll he) rest

theorem reads_exists {d : Dialect} {depth : Nat} (negated : Bool) (scope : Scope)
    {fs : List Formula} (h : ∀ f ∈ fs, f.ReadsBack d depth) (n : Nat) :
    Reads (primary (expr (depth + 1))) (lexemes n ((Formula.exists negated scope fs).line d true))
      ((Formula.exists negated scope fs).stated d n) := by
  intro rest
  have hsubquery := subquery_filters scope h n rest
  have hexistence : existence (expr (depth + 1)) negated ([.opening, .key .select, .number 1]
      ++ (lexemes n (subqueryLine d scope fs) ++ .closing :: rest))
      = some ((Formula.exists negated scope fs).stated d n, rest) := by
    rw [existence, after?_append]
    simp only [Option.bind_eq_bind, Option.bind_some, hsubquery]
    rfl
  rw [lexemes_exists, List.append_assoc, List.append_assoc, List.append_assoc, List.singleton_append]
  cases negated with
  | false => exact hexistence
  | true => exact hexistence

/-- What starts with SELECT is no expression. -/
theorem group_select (depth : Nat) (ts : List Lexeme) :
    group (expr (depth + 1)) (.key .select :: ts) = none := rfl

theorem reads_eventDate {d : Dialect} {depth : Nat} (which : Extreme) (scope : Scope)
    {fs : List Formula} (h : ∀ f ∈ fs, f.ReadsBack d depth) (window : Window) (n : Nat) :
    Reads (primary (expr (depth + 1)))
      (lexemes n ((eventDate which scope fs window).line d true))
      ((eventDate which scope fs window).stated d n) := by
  intro rest
  have hstart := windowStart_eq (window.stated d (n + slotsOf fs + scope.slots + 1)) rest
  have hsubquery := subquery_filters scope h n (.comparison .greaterOrEqual
    :: (startLexemes (window.stated d (n + slotsOf fs + scope.slots + 1)) ++ rest))
  have hextreme : ∀ ts, extreme (extremeLexeme which :: ts) = some (which, ts) := by
    intro ts
    cases which <;> rfl
  have hbound : dateBound (expr (depth + 1)) (.key .select :: extremeLexeme which
      :: ([.opening, .name "t", .dot, .name "transaction_date", .closing]
        ++ (lexemes n (subqueryLine d scope fs) ++ .closing :: .comparison .greaterOrEqual
          :: (startLexemes (window.stated d (n + slotsOf fs + scope.slots + 1)) ++ rest))))
      = some ((eventDate which scope fs window).stated d n, rest) := by
    rw [dateBound, after?_singleton]
    simp only [Option.bind_eq_bind, Option.bind_some, hextreme, after?_append, hsubquery,
      after?_singleton, hstart]
    rfl
  have hdate : columnLexemes transactionDate = [.name "t", .dot, .name "transaction_date"] := rfl
  rw [lexemes_eventDate, hdate]
  simp only [List.append_assoc, List.cons_append, List.nil_append] at hbound ⊢
  rw [primary, group_select, Option.none_or]
  exact hbound

/-- **A formula is read back**, with as many levels of parentheses as it has. -/
theorem readsBack (d : Dialect) (f : Formula) (hf : f.OverCatalog) :
    ∀ depth, f.depth ≤ depth → f.ReadsBack d depth := by
  induction f using forall_of_items with
  | always =>
      intro depth _
      refine .of_item rfl fun n rest => ?_
      rw [lexemes_always]
      rfl
  | compare column op value =>
      intro depth _
      refine .of_item rfl fun n rest => ?_
      rw [lexemes_compare d n true (hf column List.mem_cons_self)]
      cases op <;> rfl
  | between column low high =>
      intro depth _
      refine .of_item rfl fun n rest => ?_
      rw [lexemes_between d n true (hf column List.mem_cons_self)]
      rfl
  | like negated column pattern =>
      intro depth _
      refine .of_item rfl fun n rest => ?_
      rw [lexemes_like d n true (hf column List.mem_cons_self)]
      cases negated <;> rfl
  | isNull negated column =>
      intro depth _
      refine .of_item rfl fun n rest => ?_
      rw [lexemes_isNull d n true (hf column List.mem_cons_self)]
      cases negated <;> rfl
  | existence negated scope filters ih =>
      intro depth hdepth
      -- One level is that of the subquery, and the others are left to its filters.
      rw [Formula.depth] at hdepth
      obtain ⟨depth, rfl⟩ : ∃ k, depth = k + 1 := ⟨depth - 1, by omega⟩
      have hfilters : ∀ f ∈ filters, f.ReadsBack d depth := fun f hmem =>
        ih f hmem (.of_mem hf hmem) depth
          (Nat.le_trans (depth_le_depthOf hmem) (Nat.le_of_succ_le_succ hdepth))
      exact .of_item rfl (reads_exists negated scope hfilters)
  | eventDate which scope filters window ih =>
      intro depth hdepth
      rw [Formula.depth] at hdepth
      obtain ⟨depth, rfl⟩ : ∃ k, depth = k + 1 := ⟨depth - 1, by omega⟩
      have hfilters : ∀ f ∈ filters, f.ReadsBack d depth := fun f hmem =>
        ih f hmem (.of_mem hf hmem) depth
          (Nat.le_trans (depth_le_depthOf hmem) (Nat.le_of_succ_le_succ hdepth))
      exact .of_item rfl (reads_eventDate which scope hfilters window)
  | junction logic items ih =>
      have hitem : ∀ f ∈ items, ∀ depth, f.depth ≤ depth → f.ReadsBack d depth :=
        fun f hmem => ih f hmem (.of_mem hf hmem)
      match items with
      | [] =>
          intro depth _
          refine .of_item rfl fun n rest => ?_
          rw [line_junction_nil, ← line_always d true, lexemes_always]
          rfl
      | [f] =>
          intro depth hdepth
          rw [Formula.depth] at hdepth
          have hsingle := hitem f List.mem_cons_self depth hdepth
          refine ⟨fun n => ?_, fun n rest hrest => ?_⟩
          · rw [line_junction_single]
            exact hsingle.item n
          · rw [line_junction_single]
            exact hsingle.whole n rest hrest
      | f :: g :: fs =>
          -- On its own the junction is read by its items, with the parentheses that they need.
          have hwhole : ∀ depth, max f.depth (depthOf (g :: fs)) ≤ depth → ∀ n rest, Ends rest →
              expr (depth + 1) (lexemes n ((junction logic (f :: g :: fs)).line d false) ++ rest)
                = some ((junction logic (f :: g :: fs)).stated d n, rest) := by
            intro depth hdepth n rest hrest
            have hfirst := hitem f List.mem_cons_self depth (Nat.le_trans (Nat.le_max_left ..) hdepth)
            have hothers : ∀ x ∈ g :: fs, x.ReadsBack d depth := fun x hx =>
              hitem x (List.mem_cons_of_mem _ hx) depth (Nat.le_trans (depth_le_depthOf hx)
                (Nat.le_trans (Nat.le_max_right ..) hdepth))
            rw [lexemes_junction, List.append_assoc]
            exact expr_junction logic (hfirst.item n) (separated_items logic hothers _) hrest
          intro depth hdepth
          have hdepth' : max f.depth (depthOf (g :: fs)) + 1 ≤ depth := hdepth
          obtain ⟨depth, rfl⟩ : ∃ k, depth = k + 1 := ⟨depth - 1, by omega⟩
          refine ⟨fun n => ?_, fun n rest hrest => hwhole (depth + 1) (by omega) n rest hrest⟩
          rw [lexemes_junction_nested]
          exact primary_group fun rest hrest => hwhole depth (by omega) n rest hrest

/-! ## Levels of parentheses -/

/-- Items with no more levels than lexemes have no more levels than lexemes together. -/
theorem depthOf_le_length {d : Dialect} {fs : List Formula}
    (h : ∀ f ∈ fs, ∀ n, f.depth ≤ (lexemes n (f.line d true)).length) (logic : Logic) (n : Nat) :
    depthOf fs ≤ (lexemes n (itemsLine d logic fs)).length := by
  induction fs generalizing n with
  | nil => simp [depthOf]
  | cons f fs ih =>
      have hf := h f List.mem_cons_self n
      have hfs := ih (fun g hg => h g (List.mem_cons_of_mem _ hg)) (n + f.slots)
      rw [lexemes_itemsLine_cons, depthOf, List.length_cons, List.length_append]
      omega

/-- Every level of parentheses takes up lexemes. -/
theorem depth_le_length (d : Dialect) (f : Formula) :
    ∀ nested n, f.depth ≤ (lexemes n (f.line d nested)).length := by
  induction f using forall_of_items with
  | always => intro nested n; exact Nat.zero_le _
  | compare column op value => intro nested n; exact Nat.zero_le _
  | between column low high => intro nested n; exact Nat.zero_le _
  | like negated column pattern => intro nested n; exact Nat.zero_le _
  | isNull negated column => intro nested n; exact Nat.zero_le _
  | existence negated scope filters ih =>
      intro nested n
      have hfilters := depthOf_le_length (fun f hf => ih f hf true) .and n
      rw [lexemes_exists, lexemes_subqueryLine, Formula.depth]
      simp only [List.length_append, List.length_cons]
      omega
  | eventDate which scope filters window ih =>
      intro nested n
      have hfilters := depthOf_le_length (fun f hf => ih f hf true) .and n
      rw [lexemes_eventDate, lexemes_subqueryLine, Formula.depth]
      simp only [List.length_append, List.length_cons]
      omega
  | junction logic items ih =>
      match items with
      | [] => intro nested n; exact Nat.zero_le _
      | [f] =>
          intro nested n
          rw [line_junction_single]
          exact ih f List.mem_cons_self nested n
      | f :: g :: fs =>
          have hwhole : ∀ n, (junction logic (f :: g :: fs)).depth
              ≤ (lexemes n ((junction logic (f :: g :: fs)).line d false)).length := by
            intro n
            have hmem : g ∈ f :: g :: fs := List.mem_cons_of_mem _ List.mem_cons_self
            have hf := ih f List.mem_cons_self true n
            have hg := ih g hmem true (n + f.slots)
            have hfs := depthOf_le_length
              (fun x hx => ih x (List.mem_cons_of_mem _ (List.mem_cons_of_mem _ hx)) true)
              logic (n + f.slots + g.slots)
            -- The operator between the first two items makes up for the parentheses.
            have hdepth : (junction logic (f :: g :: fs)).depth
                = max f.depth (max g.depth (depthOf fs)) + 1 := rfl
            rw [hdepth, lexemes_junction, lexemes_itemsLine_cons, List.length_append, List.length_cons,
              List.length_append]
            omega
          intro nested n
          cases nested with
          | false => exact hwhole n
          | true =>
              have hn := hwhole n
              rw [lexemes_junction_nested, List.length_cons, List.length_append]
              omega

end Formula

/-- **The statement of a predicate reads back** as the expression that its formula states, in either
dialect, if its columns are in the catalog. -/
theorem Predicate.read?_sql (p : Predicate) (h : p.formula.OverCatalog) :
    read? p.sql = some (p.formula.stated p.dialect 0) := by
  have hlex : lex p.sql = lexemes 0 (p.formula.line p.dialect false) := by
    rw [p.sql_eq_statement]
    exact (p.formula.clean_line p.dialect h false).lex_statement
  have hdepth := p.formula.depth_le_length p.dialect false 0
  have hread := (p.formula.readsBack p.dialect h _ hdepth).whole 0 [] ends_nil
  rw [List.append_nil] at hread
  rw [read?, hlex, hread]

/-- An OR in an AND, and another one in a subquery with joins out of order, a window and a least count. -/
def Formula.mixed : Formula :=
  .junction .and [
    .junction .or [.compare ⟨"c", "email"⟩ .equal (.text "a@b.c"), .isNull true ⟨"c", "city"⟩],
    .junction .or [.like true ⟨"c", "full_name"⟩ "A%"],
    .exists true ⟨[.stores, .productLines, .stores], some ⟨.weeks, 2⟩, some 3⟩ [
      .junction .or [.compare ⟨"s", "city"⟩ .equal (.text "Hue"),
        .between ⟨"t", "quantity"⟩ (.int 1) (.int 9)],
      .junction .and []]]

/-- What `Formula.mixed` says, up to the start of its window. -/
def Formula.mixedStated (start : WindowStart) : Expr :=
  .junction .and [
    .junction .or [.compare ⟨"c", "email"⟩ .equal 1, .isNull true ⟨"c", "city"⟩],
    .like true ⟨"c", "full_name"⟩ 2,
    .exists true ⟨[.productLines, .stores], some start, some 7⟩ [
      .junction .or [.compare ⟨"s", "city"⟩ .equal 3, .between ⟨"t", "quantity"⟩ 4 5],
      .always]]

theorem Formula.overCatalog_mixed : mixed.OverCatalog := by
  unfold OverCatalog
  decide +kernel

theorem Predicate.read?_sql_mixed :
    Formula.mixed.OverCatalog ∧
    read? (Predicate.mk .postgres .mixed).sql = some (Formula.mixedStated (.interval .weeks 6)) ∧
    read? (Predicate.mk .sqlite .mixed).sql = some (Formula.mixedStated (.modifier 6)) :=
  ⟨Formula.overCatalog_mixed, Predicate.read?_sql ⟨.postgres, .mixed⟩ Formula.overCatalog_mixed,
    Predicate.read?_sql ⟨.sqlite, .mixed⟩ Formula.overCatalog_mixed⟩

end Audience
