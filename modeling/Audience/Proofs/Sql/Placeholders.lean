import Audience.Proofs.Sql.Neutral
import Audience.Proofs.Sql.ReadBack

set_option autoImplicit false

/-! # Placeholders and values

What a renderer writes when it binds values and what it writes when it puts them in place are the same
segments of text with something else in between: the placeholders in the order of their numbers, or the
values that it has bound to them as literals. The values depend on the dialect only where a window is
counted back (`Formula.placeholders_line_up`). Both texts are those of one line, since a renderer numbers
its values in the order in which it comes to them (`Renderer.writes_writeExpr`).

The texts of a line have no character that could start a placeholder, and close the quotations they open
(`NeutralLine`). So the placeholders in between are all that a statement has, and the text for people has
none, whatever its literals hold. -/

namespace Audience

open Sql

/-! ## Segments -/

/-- The text of a line in front of its first value. -/
def firstSegment : List Token → String
  | [] => ""
  | .text s :: line => s ++ firstSegment line
  | .value _ :: _ => ""

/-- The texts of a line after each of its values, up to the next one. -/
def laterSegments : List Token → List String
  | [] => []
  | .text _ :: line => laterSegments line
  | .value _ :: line => firstSegment line :: laterSegments line

/-- Segments of text with something in between. -/
def interleave (first : String) (fillings later : List String) : String :=
  first ++ String.join (List.zipWith (· ++ ·) fillings later)

theorem interleave_text (s first : String) (fillings later : List String) :
    interleave (s ++ first) fillings later = s ++ interleave first fillings later := by
  rw [interleave, interleave, String.append_assoc]

theorem interleave_filling (filling first : String) (fillings later : List String) :
    interleave "" (filling :: fillings) (first :: later)
      = filling ++ interleave first fillings later := by
  rw [interleave, List.zipWith_cons_cons, String.join_cons, String.empty_append, interleave,
    String.append_assoc]

theorem length_laterSegments (line : List Token) :
    (laterSegments line).length = (parameters line).length := by
  induction line with
  | nil => rfl
  | cons token line ih =>
      cases token with
      | text s => rw [laterSegments, parameters_text, ih]
      | value v => rw [laterSegments, parameters_value, List.length_cons, List.length_cons, ih]

/-- A statement has the placeholders of successive numbers between the segments of its line. -/
theorem statement_eq_interleave (d : Dialect) (line : List Token) :
    ∀ n, statement d n line = interleave (firstSegment line)
      ((List.range' (n + 1) (parameters line).length).map d.placeholder) (laterSegments line) := by
  induction line with
  | nil => intro n; rfl
  | cons token line ih =>
      intro n
      cases token with
      | text s => rw [statement, ih, firstSegment, laterSegments, parameters_text, interleave_text]
      | value v =>
          rw [statement, ih, firstSegment, laterSegments, parameters_value, List.length_cons,
            List.range'_succ, List.map_cons, interleave_filling]

/-- The text for people has the literals of the values in the same places. -/
theorem inlineText_eq_interleave (line : List Token) :
    inlineText line = interleave (firstSegment line) ((parameters line).map Scalar.literal)
      (laterSegments line) := by
  induction line with
  | nil => rfl
  | cons token line ih =>
      cases token with
      | text s => rw [inlineText, ih, firstSegment, laterSegments, parameters_text, interleave_text]
      | value v =>
          rw [inlineText, ih, firstSegment, laterSegments, parameters_value, List.map_cons,
            interleave_filling]

/-! ## Neutral lines -/

/-- A line whose texts are neutral. -/
abbrev NeutralLine (line : List Token) : Prop :=
  EachText Neutral line

namespace NeutralLine

variable {line : List Token}

/-- The placeholders of a line are those of its values. -/
theorem slotNumbers_lexemes (h : NeutralLine line) :
    ∀ n, slotNumbers (lexemes n line) = List.range' (n + 1) (parameters line).length := by
  induction line with
  | nil => intro n; rfl
  | cons token line ih =>
      intro n
      cases token with
      | text s =>
          have hs := (h s List.mem_cons_self).harmless.slotNumbers_lex
          rw [lexemes, slotNumbers_append, hs, List.nil_append, ih h.of_cons, parameters_text]
      | value v =>
          have hslot : slotNumbers (.slot (n + 1) :: lexemes (n + 1) line)
              = (n + 1) :: slotNumbers (lexemes (n + 1) line) := rfl
          rw [lexemes, hslot, ih h.of_cons, parameters_value, List.length_cons, List.range'_succ]

theorem harmless_inlineText (h : NeutralLine line) : Harmless (inlineText line) := by
  induction line with
  | nil => exact Neutral.harmless (s := "") (by decide)
  | cons token line ih =>
      cases token with
      | text s => exact (h s List.mem_cons_self).harmless.append (ih h.of_cons)
      | value v => exact (harmless_literal v).append (ih h.of_cons)

end NeutralLine

/-! ## The lines of formulas are neutral -/

theorem neutral_column : ∀ column ∈ Catalog.columns.map Column.ref, Neutral column.text := by
  decide +kernel

theorem neutralLine_start (d : Dialect) (w : Window) : NeutralLine (w.start d) :=
  eachText_start (by intro unit; cases unit <;> decide +kernel) (by decide) (by decide) d w

theorem neutralLine_itemsLine {d : Dialect} (logic : Logic) {fs : List Formula}
    (h : ∀ f ∈ fs, NeutralLine (f.line d true)) : NeutralLine (itemsLine d logic fs) :=
  eachText_itemsLine (by cases logic <;> decide) h

theorem neutral_openingText (joins : List Join) : Neutral (openingText joins) := by
  have hclauses : Neutral (joinClauses joins) := by
    unfold joinClauses
    cases joins.contains .productLines <;> cases joins.contains .stores <;> decide +kernel
  exact .append (.append (by decide +kernel) hclauses) (by decide +kernel)

theorem neutralLine_subqueryLine {d : Dialect} (scope : Scope) {fs : List Formula}
    (h : ∀ f ∈ fs, NeutralLine (f.line d true)) : NeutralLine (subqueryLine d scope fs) := by
  rw [subqueryLine, lineOf_opening]
  exact .append (.append (.text (neutral_openingText scope.joins) .nil) (neutralLine_itemsLine .and h))
    (eachText_closing (by decide +kernel) (by decide +kernel) (neutralLine_start d))

/-- The texts of a formula over the catalog are neutral. -/
theorem Formula.neutralLine_line (d : Dialect) (f : Formula) (hf : f.OverCatalog) :
    ∀ nested, NeutralLine (f.line d nested) := by
  induction f using Formula.forall_of_items with
  | always =>
      intro nested
      rw [line_always]
      exact .text (by decide) .nil
  | compare column op value =>
      intro nested
      rw [line_compare]
      exact .text (.append (neutral_column _ (hf _ List.mem_cons_self)) (by cases op <;> decide))
        (.value .nil)
  | between column low high =>
      intro nested
      rw [line_between]
      exact .text (.append (neutral_column _ (hf _ List.mem_cons_self)) (by decide))
        (.value (.text (by decide) (.value .nil)))
  | like negated column pattern =>
      intro nested
      rw [line_like]
      exact .text (.append (neutral_column _ (hf _ List.mem_cons_self)) (by cases negated <;> decide))
        (.value (.text (by decide) .nil))
  | isNull negated column =>
      intro nested
      rw [line_isNull]
      exact .text (.append (neutral_column _ (hf _ List.mem_cons_self)) (by cases negated <;> decide))
        .nil
  | existence negated scope filters ih =>
      intro nested
      have hfilters := neutralLine_subqueryLine scope fun f hmem => ih f hmem (.of_mem hf hmem) true
      rw [line_exists]
      exact .text (by cases negated <;> decide +kernel) (.append hfilters (.text (by decide) .nil))
  | eventDate extreme scope filters window ih =>
      intro nested
      have hfilters := neutralLine_subqueryLine scope fun f hmem => ih f hmem (.of_mem hf hmem) true
      rw [line_eventDate]
      exact .text (by cases extreme <;> decide +kernel)
        (.append hfilters (.text (by decide) (neutralLine_start d window)))
  | junction logic items ih =>
      have hitem : ∀ f ∈ items, ∀ nested, NeutralLine (f.line d nested) :=
        fun f hmem => ih f hmem (.of_mem hf hmem)
      match items with
      | [] =>
          intro nested
          rw [line_junction_nil]
          exact .text (by decide) .nil
      | [f] =>
          intro nested
          rw [line_junction_single]
          exact hitem f List.mem_cons_self nested
      | f :: g :: fs =>
          have hjoined : NeutralLine ((junction logic (f :: g :: fs)).line d false) := by
            rw [line_junction]
            exact .append (hitem f List.mem_cons_self true)
              (neutralLine_itemsLine logic fun x hx => hitem x (List.mem_cons_of_mem _ hx) true)
          intro nested
          cases nested with
          | false => exact hjoined
          | true =>
              rw [line_junction_nested]
              exact .text (by decide) (.append hjoined (.text (by decide) .nil))

/-! ## Placeholders and values -/

theorem Binding.scalar_eq_or_amount (b : Binding) (d d' : Dialect) :
    b.scalar d = b.scalar d' ∨ ∃ w, b = .amount w := by
  cases b with
  | value v => exact Or.inl rfl
  | amount w => exact Or.inr ⟨w, rfl⟩

/-- **Placeholders and values line up.** In either dialect there are values and one segment of text more.
What a renderer writes when it binds values is the segments with the placeholders of the numbers `1`, `2`, …
in between, and those are the values it has bound; what it writes when it binds none is the same segments
with the literals of the same values. The statement has no other placeholder, and the text for people has
none. At every place the dialects bind the same value, unless it says how far a window goes back. -/
theorem Formula.placeholders_line_up (f : Formula) (hf : f.OverCatalog) :
    (∀ d, ∃ first later values, later.length = values.length ∧
      (Renderer.bound d).render f
        = (interleave first ((List.range' 1 values.length).map d.placeholder) later, values) ∧
      (Renderer.inlining d).render f = (interleave first (values.map Scalar.literal) later, []) ∧
      slotNumbers (lex (Predicate.mk d f).sql) = List.range' 1 values.length ∧
      slotNumbers (lex (Predicate.mk d f).inline) = []) ∧
    (∀ d, (Predicate.mk d f).params = f.bindings.map (Binding.scalar d)) ∧
    ∀ k : Nat, (Predicate.mk .postgres f).params[k]? = (Predicate.mk .sqlite f).params[k]? ∨
      ∃ w, f.bindings[k]? = some (.amount w) := by
  have hparams : ∀ d, (Predicate.mk d f).params = f.bindings.map (Binding.scalar d) := by
    intro d
    rw [Predicate.params_eq_parameters]
    exact f.parameters_line d false
  refine ⟨fun d => ?_, hparams, fun k => ?_⟩
  · have hclean : Clean d (f.tokens d) := f.clean_line d hf false
    have hneutral : NeutralLine (f.tokens d) := f.neutralLine_line d hf false
    refine ⟨firstSegment (f.tokens d), laterSegments (f.tokens d), parameters (f.tokens d),
      length_laterSegments _, ?_, ?_, ?_, ?_⟩
    · rw [Renderer.render_bound, statement_eq_interleave]
    · rw [Renderer.render_inlining, inlineText_eq_interleave]
    · rw [Predicate.sql_eq_statement, hclean.lex_statement, hneutral.slotNumbers_lexemes]
    · rw [Predicate.inline_eq_inlineText]
      exact hneutral.harmless_inlineText.slotNumbers_lex
  · rw [hparams, hparams, List.getElem?_map, List.getElem?_map]
    cases hk : f.bindings[k]? with
    | none => exact Or.inl rfl
    | some b =>
        rcases b.scalar_eq_or_amount .postgres .sqlite with hsame | ⟨w, rfl⟩
        · exact Or.inl (congrArg some hsame)
        · exact Or.inr ⟨w, rfl⟩

/-- An address that ends a quotation and writes a placeholder, and a last purchase of long ago. -/
def Formula.quoting : Formula :=
  .junction .and [
    .compare ⟨"c", "email"⟩ .equal (.text "' OR $1"),
    .eventDate .last ⟨[], none, none⟩ [.compare ⟨"t", "quantity"⟩ .greater (.int 2)] ⟨.weeks, 2⟩]

theorem Formula.overCatalog_quoting : quoting.OverCatalog := by
  unfold OverCatalog
  decide +kernel

theorem Formula.placeholders_line_up_quoting :
    Formula.quoting.OverCatalog ∧
    (∃ first later, later.length = 3 ∧
      (Renderer.bound .sqlite).render .quoting
        = (interleave first ["?1", "?2", "?3"] later, [.text "' OR $1", .int 2, .text "-14 days"]) ∧
      (Renderer.inlining .sqlite).render .quoting
        = (interleave first ["''' OR $1'", "2", "'-14 days'"] later, [])) ∧
    slotNumbers (lex (Predicate.mk .sqlite .quoting).sql) = [1, 2, 3] ∧
    slotNumbers (lex (Predicate.mk .sqlite .quoting).inline) = [] := by
  obtain ⟨hlines, hparams, -⟩ := Formula.placeholders_line_up .quoting Formula.overCatalog_quoting
  obtain ⟨first, later, values, hlength, hbound, hinlining, hsql, hinline⟩ := hlines .sqlite
  have hvalues : values = [.text "' OR $1", .int 2, .text "-14 days"] := by
    have hbind := hparams .sqlite
    rw [Predicate.params, hbound] at hbind
    exact hbind
  subst hvalues
  exact ⟨Formula.overCatalog_quoting, ⟨first, later, hlength, hbound, hinlining⟩, hsql, hinline⟩

end Audience
