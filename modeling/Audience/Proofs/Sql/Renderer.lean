import Audience.Proofs.Sql.Joins

set_option autoImplicit false

/-! # What a renderer writes

A renderer writes the line of a formula (`Renderer.writes_writeExpr`). If it binds values, it adds the
statement of the line, numbered on from the values that are bound already, and binds the values of the
line behind these; if it writes values in place, it adds the text for people and binds nothing. Both are
said of every text and every renderer a part of a formula may be written with, since the parts come one
after the other and each finds the values of those in front of it bound. -/

namespace Audience

open Sql

/-! ## Lines -/

theorem inlineText_append (line line' : List Token) :
    inlineText (line ++ line') = inlineText line ++ inlineText line' := by
  induction line with
  | nil => rw [List.nil_append, inlineText, String.empty_append]
  | cons token line ih =>
      cases token with
      | text s => rw [List.cons_append, inlineText, inlineText, ih, String.append_assoc]
      | value v => rw [List.cons_append, inlineText, inlineText, ih, String.append_assoc]

namespace Renderer

/-- The text of a line: with literals, or with placeholders that are numbered on from the values bound. -/
def text : Renderer → List Token → String
  | ⟨_, true, _⟩, line => inlineText line
  | ⟨d, false, params⟩, line => statement d params.length line

/-- A renderer once a line is written: the values of the line are bound, if it binds any. -/
def after : Renderer → List Token → Renderer
  | ⟨d, true, params⟩, _ => ⟨d, true, params⟩
  | ⟨d, false, params⟩, line => ⟨d, false, params ++ parameters line⟩

section Lines

variable (r : Renderer)

@[simp] theorem dialect_after (line : List Token) : (r.after line).dialect = r.dialect := by
  obtain ⟨d, _ | _, params⟩ := r <;> rfl

@[simp] theorem text_nil : r.text [] = "" := by
  obtain ⟨d, _ | _, params⟩ := r <;> rfl

@[simp] theorem text_text (s : String) (line : List Token) :
    r.text (.text s :: line) = s ++ r.text line := by
  obtain ⟨d, _ | _, params⟩ := r <;> rfl

@[simp] theorem after_nil : r.after [] = r := by
  obtain ⟨d, _ | _, params⟩ := r
  · rw [after, parameters_nil, List.append_nil]
  · rfl

@[simp] theorem after_text (s : String) (line : List Token) :
    r.after (.text s :: line) = r.after line := by
  obtain ⟨d, _ | _, params⟩ := r <;> rfl

/-- The values of a line in front are counted before those of the next one. -/
theorem text_append (line line' : List Token) :
    r.text (line ++ line') = r.text line ++ (r.after line).text line' := by
  obtain ⟨d, _ | _, params⟩ := r
  · rw [text, text, after, text, statement_append, List.length_append]
  · rw [text, text, after, text, inlineText_append]

theorem after_append (line line' : List Token) :
    r.after (line ++ line') = (r.after line).after line' := by
  obtain ⟨d, _ | _, params⟩ := r
  · rw [after, after, after, parameters_append, List.append_assoc]
  · rfl

end Lines

/-! ## Running renderers -/

theorem run_bind {α β : Type} (action : StateM Renderer α) (next : α → StateM Renderer β)
    (r : Renderer) :
    (action >>= next).run r = (next (action.run r).1).run (action.run r).2 :=
  rfl

theorem run_pure {α : Type} (a : α) (r : Renderer) : (pure a : StateM Renderer α).run r = (a, r) :=
  rfl

/-- An action that makes the text of a line and binds its values. -/
def Makes (r : Renderer) (line : List Token) (action : StateM Renderer String) : Prop :=
  action.run r = (r.text line, r.after line)

/-- An action that writes a line behind whatever text there is. -/
def Writes (r : Renderer) (line : List Token) (write : String → StateM Renderer String) : Prop :=
  ∀ out, (write out).run r = (out ++ r.text line, r.after line)

section Parts

variable {r : Renderer} {line line' : List Token}

theorem Makes.text (s : String) : r.Makes [.text s] (pure s) := by
  rw [Makes, run_pure, text_text, text_nil, after_text, after_nil, String.append_empty]

/-- A value is one token: its literal, or the placeholder of the number it is bound to. -/
theorem makes_value (v : Scalar) (r : Renderer) : r.Makes [.value v] (value v) := by
  obtain ⟨d, _ | _, params⟩ := r
  · show (d.placeholder (params ++ [v]).length, Renderer.mk d false (params ++ [v]))
      = (d.placeholder (params.length + 1) ++ "", ⟨d, false, params ++ [v]⟩)
    rw [String.append_empty, List.length_append, List.length_singleton]
  · show (v.literal, Renderer.mk d true params) = (v.literal ++ "", ⟨d, true, params⟩)
    rw [String.append_empty]

/-- The values of the second text are numbered on from those of the first. -/
theorem Makes.append {action action' : StateM Renderer String} (h : r.Makes line action)
    (h' : (r.after line).Makes line' action') :
    r.Makes (line ++ line') (do
      let first ← action
      let second ← action'
      return first ++ second) := by
  unfold Makes at *
  rw [run_bind, h, run_bind, h', run_pure, text_append, after_append]

theorem Makes.writes {action : StateM Renderer String} (h : r.Makes line action) :
    r.Writes line fun out => do
      let made ← action
      return out ++ made := by
  intro out
  unfold Makes at h
  rw [run_bind, h, run_pure]

theorem Writes.nil : r.Writes [] pure := by
  intro out
  rw [run_pure, text_nil, after_nil, String.append_empty]

theorem Writes.text {write : String → StateM Renderer String} (s : String) (h : r.Writes line write) :
    r.Writes (.text s :: line) fun out => write (out ++ s) := by
  intro out
  rw [h, text_text, after_text, String.append_assoc]

theorem Writes.append {write write' : String → StateM Renderer String} (h : r.Writes line write)
    (h' : (r.after line).Writes line' write') :
    r.Writes (line ++ line') fun out => write out >>= write' := by
  intro out
  rw [run_bind, h, h', text_append, after_append, String.append_assoc]

end Parts

/-- The start of a window binds its length or its modifier. -/
theorem makes_windowStart (w : Window) (r : Renderer) :
    r.Makes (w.start r.dialect) (windowStart w) := by
  obtain ⟨d, inline, params⟩ := r
  cases d with
  | postgres =>
    have h : (Renderer.mk .postgres inline params).Makes _ _ :=
      .append (.append (.text s!"NOW() - make_interval({Term.code w.unit} => ")
        (makes_value (.int w.length) _)) (.text ")")
    exact h
  | sqlite =>
    have h : (Renderer.mk .sqlite inline params).Makes _ _ :=
      .append (.append (.text "date('now', ") (makes_value (.text w.modifier) _)) (.text ")")
    exact h

/-! ## Writing formulas -/

theorem writes_writeLeast (joins : List Join) (minCount : Option Int64) (r : Renderer) :
    r.Writes (lineOf r.dialect (Scope.closing ⟨joins, none, minCount⟩)) (writeLeast minCount) := by
  cases minCount with
  | none => exact .nil
  | some n =>
      rw [lineOf_closing_count]
      exact (Makes.append (.text " GROUP BY t.customer_id HAVING COUNT(*) >= ")
        (makes_value (.int n) _)).writes

/-- The window of a subquery is bound in front of its least count. -/
theorem writes_closing (scope : Scope) (r : Renderer) :
    r.Writes (lineOf r.dialect scope.closing) fun out =>
      writeSince scope.window out >>= writeLeast scope.minCount := by
  obtain ⟨joins, window, minCount⟩ := scope
  cases window with
  | none => exact writes_writeLeast joins minCount r
  | some w =>
      have hstart := makes_windowStart w (r.after [.text " AND t.transaction_date >= "])
      have hleast := writes_writeLeast joins minCount
        (r.after (.text " AND t.transaction_date >= " :: w.start r.dialect))
      rw [dialect_after] at hstart hleast
      have hsince : r.Writes (.text " AND t.transaction_date >= " :: w.start r.dialect)
          (writeSince (some w)) :=
        (Makes.append (.text " AND t.transaction_date >= ") hstart).writes
      exact hsince.append hleast

/-- A subquery is written from its tables to its least count, if its filters are. -/
theorem writes_writeBody (scope : Scope) {filters : List Formula}
    {writeFilters : String → StateM Renderer String} {r : Renderer}
    (h : r.Writes (itemsLine r.dialect .and filters) writeFilters) :
    r.Writes (subqueryLine r.dialect scope filters) (writeBody scope writeFilters) := by
  have hclosing := writes_closing scope (r.after (itemsLine r.dialect .and filters))
  rw [dialect_after] at hclosing
  have hline : subqueryLine r.dialect scope filters
      = .text (openingText scope.joins)
        :: (itemsLine r.dialect .and filters ++ lineOf r.dialect scope.closing) := by
    rw [subqueryLine, lineOf_opening, List.append_assoc, List.singleton_append]
  have hopening : ∀ out,
      writeJoins (out ++ " FROM transactions t") scope.joins ++ " WHERE t.customer_id = c.customer_id"
        = out ++ openingText scope.joins := by
    intro out
    rw [writeJoins_eq, String.append_assoc, String.append_assoc]
    exact congrArg (out ++ ·) String.append_assoc.symm
  have hbody : writeBody scope writeFilters = fun out =>
      writeFilters (out ++ openingText scope.joins) >>= fun out =>
        writeSince scope.window out >>= writeLeast scope.minCount := by
    funext out
    rw [← hopening]
    rfl
  rw [hline, hbody]
  exact .text (openingText scope.joins) (h.append hclosing)

theorem writes_writeEach (logic : Logic) {fs : List Formula}
    (h : ∀ f ∈ fs, ∀ (r : Renderer) nested, r.Writes (f.line r.dialect nested) (writeExpr · nested f)) :
    ∀ r : Renderer, r.Writes (itemsLine r.dialect logic fs) (writeEach s!" {logic.name} " · fs) := by
  induction fs with
  | nil => exact fun r => .nil
  | cons f fs ih =>
      intro r
      have hrest := ih (fun g hg => h g (List.mem_cons_of_mem _ hg)) (r.after (f.line r.dialect true))
      rw [dialect_after] at hrest
      have hline : itemsLine r.dialect logic (f :: fs)
          = .text s!" {logic.name} " :: (f.line r.dialect true ++ itemsLine r.dialect logic fs) := by
        rw [itemsLine, layoutItems, List.cons_append, lineOf_text, lineOf_append]
        rfl
      rw [hline]
      exact .text _ (.append (h f List.mem_cons_self r true) hrest)

/-- **A renderer writes the line of a formula**, whatever it has bound before. -/
theorem writes_writeExpr (f : Formula) :
    ∀ (r : Renderer) nested, r.Writes (f.line r.dialect nested) (writeExpr · nested f) := by
  -- An item is written by the renderer that the items in front of it leave, so it holds of all of them.
  induction f using Formula.forall_of_items with
  | always =>
    intro r nested
    exact .text "TRUE" .nil
  | compare column op v =>
    intro r nested
    exact (Makes.append (.text s!"{column.text} {op.symbol} ") (makes_value v _)).writes
  | between column low high =>
    intro r nested
    have hlow : r.Makes _ _ := .append (.text s!"{column.text} BETWEEN ") (makes_value low _)
    exact ((hlow.append (.text " AND ")).append (makes_value high _)).writes
  | like negated column pattern =>
    intro r nested
    have hpattern : r.Makes _ _ :=
      .append (.text s!"{column.text} {notIf negated}LIKE ") (makes_value (.text pattern) _)
    exact (hpattern.append (.text " ESCAPE '\\'")).writes
  | isNull negated column =>
    intro r nested
    exact .text s!"{column.text} IS {notIf negated}NULL" .nil
  | existence negated scope filters ih =>
    intro r nested
    have hbody := writes_writeBody scope (writes_writeEach .and ih r)
    have hclosed := hbody.append (.text ")" .nil)
    rw [Formula.line_exists]
    exact .text s!"{notIf negated}EXISTS (SELECT 1" hclosed
  | eventDate extreme scope filters window ih =>
    intro r nested
    -- The window of the date is bound behind all that the subquery binds.
    have hbody := writes_writeBody scope (writes_writeEach .and ih r)
    have hstart := (makes_windowStart window (r.after (subqueryLine r.dialect scope filters))).writes
    rw [dialect_after] at hstart
    rw [Formula.line_eventDate, ← String.append_assoc]
    exact .text s!"(SELECT {extreme.function}(t.transaction_date)" (hbody.append (.text ") >= " hstart))
  | junction logic items ih =>
    intro r nested
    rcases items with _ | ⟨f, _ | ⟨g, fs⟩⟩
    · rw [Formula.line_junction_nil]
      exact .text "TRUE" .nil
    · rw [Formula.line_junction_single]
      exact ih f List.mem_cons_self r nested
    · have hitems := writes_writeEach logic (fun x hx => ih x (List.mem_cons_of_mem _ hx))
        (r.after (f.line r.dialect true))
      rw [dialect_after] at hitems
      have hjoined := (ih f List.mem_cons_self r true).append hitems
      cases nested with
      | false =>
        rw [Formula.line_junction]
        exact hjoined
      | true =>
        rw [Formula.line_junction_nested, Formula.line_junction]
        exact .text "(" (hjoined.append (.text ")" .nil))

/-- Values that are bound are numbered from one on. -/
theorem render_bound (d : Dialect) (f : Formula) :
    (bound d).render f = (statement d 0 (f.tokens d), parameters (f.tokens d)) := by
  have hrun := writes_writeExpr f (bound d) false ""
  rw [String.empty_append] at hrun
  rw [render, hrun]
  rfl

/-- What writes values in place binds nothing. -/
theorem render_inlining (d : Dialect) (f : Formula) :
    (inlining d).render f = (inlineText (f.tokens d), []) := by
  have hrun := writes_writeExpr f (inlining d) false ""
  rw [String.empty_append] at hrun
  rw [render, hrun]
  rfl

end Renderer

namespace Predicate

variable (p : Predicate)

theorem sql_eq_statement : p.sql = statement p.dialect 0 (p.formula.tokens p.dialect) := by
  rw [sql, Renderer.render_bound]

theorem params_eq_parameters : p.params = parameters (p.formula.tokens p.dialect) := by
  rw [params, Renderer.render_bound]

theorem inline_eq_inlineText : p.inline = inlineText (p.formula.tokens p.dialect) := by
  rw [inline, Renderer.render_inlining]

end Predicate

end Audience
