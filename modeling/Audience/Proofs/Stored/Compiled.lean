import Audience.Formula.OfStored
import Audience.Proofs.Outcome
import Audience.Proofs.Sql.Pieces
import Mathlib.Data.List.Infix

set_option autoImplicit false

/-! # What a stored segment compiles to

A segment compiles exactly when each of its conditions does, at the root and in the groups
(`Stored.Tree.exists_predicate_iff`). The formula of a condition on events stands in the predicate as it
is: its tokens are a stretch of the tokens of the predicate (`Stored.Tree.tokens_isInfix`). -/

namespace Audience

/-! ## Steps of compiling -/

theorem formulas_cons_eq_ok_iff {c : Stored.Condition} {cs : List Stored.Condition}
    {fs : List Formula} :
    formulas (c :: cs) = .ok fs ↔
      ∃ f, c.formula = .ok f ∧ ∃ rest, formulas cs = .ok rest ∧ f :: rest = fs := by
  simp only [formulas, bind_eq_ok_iff, pure_eq_ok_iff]

theorem groupFormulas_cons_eq_ok_iff {g : Stored.Group} {gs : List Stored.Group}
    {fs : List Formula} :
    groupFormulas (g :: gs) = .ok fs ↔
      ∃ ms, formulas g.conditions = .ok ms ∧ ∃ rest, groupFormulas gs = .ok rest ∧
        (if g.conditions.isEmpty then rest else .junction g.logic ms :: rest) = fs := by
  simp only [groupFormulas, bind_eq_ok_iff, pure_eq_ok_iff]

/-- What the predicate of a segment joins: its conditions, then its groups. -/
theorem Stored.Tree.predicate_eq_ok_iff {t : Stored.Tree} {d : Dialect} {p : Predicate} :
    t.predicate d = .ok p ↔
      ∃ cs, formulas t.conditions = .ok cs ∧ ∃ gs, groupFormulas t.groups = .ok gs ∧
        ⟨d, if (cs ++ gs).isEmpty then .always else .junction t.logic (cs ++ gs)⟩ = p := by
  simp only [Stored.Tree.predicate, Stored.Tree.formula, bind_eq_ok_iff, pure_eq_ok_iff]
  grind

theorem Stored.Event.formula_eq_ok_iff {e : Stored.Event} {f : Formula} :
    e.formula = .ok f ↔
      ∃ found, eventFilters e.attributes = .ok found ∧
        (match (Term.parse e.type : EventType) with
          | .performed => .exists false ⟨found.1, e.window?, some (max e.count 1)⟩ found.2
          | .notPerformed => .exists true ⟨found.1, e.window?, none⟩ found.2
          | .firstTime => extremeFormula .first found.1 found.2 e.window?
          | .lastTime => extremeFormula .last found.1 found.2 e.window?) = f := by
  rw [Stored.Event.formula, bind_eq_ok_iff]
  refine exists_congr fun found => and_congr_right fun _ => ?_
  cases (Term.parse e.type : EventType) <;> exact pure_eq_ok_iff

theorem eventFilters_cons_eq_ok_iff {a : Stored.Attribute} {as : List Stored.Attribute}
    {found : List Join × List Formula} :
    eventFilters (a :: as) = .ok found ↔
      ∃ c, a.catalogColumn = .ok c ∧ ∃ f, a.predicate c = .ok f ∧
        ∃ rest, eventFilters as = .ok rest ∧
          (c.dataset.join?.toList ++ rest.1, f :: rest.2) = found := by
  simp only [eventFilters, bind_eq_ok_iff, pure_eq_ok_iff]

theorem Stored.Attribute.formula_eq_ok_iff {a : Stored.Attribute} {f : Formula} :
    a.formula = .ok f ↔
      ∃ c, a.catalogColumn = .ok c ∧ ∃ predicate, a.predicate c = .ok predicate ∧
        (if c.dataset = .customers then predicate
          else .exists false ⟨c.dataset.join?.toList, none, none⟩ [predicate]) = f := by
  simp only [Stored.Attribute.formula, bind_eq_ok_iff]
  constructor
  · rintro ⟨c, hc, predicate, hp, hf⟩
    refine ⟨c, hc, predicate, hp, ?_⟩
    split at hf <;> simp_all [pure, Except.pure]
  · rintro ⟨c, hc, predicate, hp, hf⟩
    refine ⟨c, hc, predicate, hp, ?_⟩
    split at hf <;> simp_all [pure, Except.pure]

/-! ## Tests of columns -/

/-- What a condition asks of its column. -/
inductive ColumnTest where
  | isNull (negated : Bool)
  | truth (b : Bool)
  | comparison (op : Comparison)
  | range
  | pattern (negated : Bool) (ofText : String → String)

namespace ColumnTest

/-- The formula of a test of a column with the texts of two values. -/
def formula (c : Column) (value value2 : String) : ColumnTest → Except CompileError Formula
  | .isNull negated => .ok (.isNull negated c.ref)
  | .truth b => .ok (.compare c.ref .equal (.bool b))
  | .comparison op => do return .compare c.ref op (← c.value value)
  | .range => do
    let low ← c.value value
    let high ← c.value value2
    return .between c.ref low high
  | .pattern negated ofText => .ok (.like negated c.ref (ofText value))

/-- The test of texts that an operator asks for. -/
def ofTextOperator? (operator : String) : Option ColumnTest :=
  match operator with
  | "contains" => some (.pattern false Like.containing)
  | "not_contains" => some (.pattern true Like.containing)
  | "starts_with" => some (.pattern false Like.startingWith)
  | "ends_with" => some (.pattern false Like.endingWith)
  | _ => none

end ColumnTest

/-- The test that an operator asks for in a column of a given type. -/
def FieldType.test? (t : FieldType) (operator : String) : Option ColumnTest :=
  if operator = "is_null" then some (.isNull false)
  else if operator = "is_not_null" then some (.isNull true)
  else if t = .boolean ∧ operator = "is_true" then some (.truth true)
  else if t = .boolean ∧ operator = "is_false" then some (.truth false)
  else match t.comparison? operator with
    | some op => some (.comparison op)
    | none =>
      if t.hasRanges ∧ operator = "between" then some .range
      else if t = .text then ColumnTest.ofTextOperator? operator
      else none

/-- An operator that compares is none of those that ask for something else. -/
theorem FieldType.test?_of_comparison {t : FieldType} {operator : String} {op : Comparison}
    (h : t.comparison? operator = some op) : t.test? operator = some (.comparison op) := by
  have htype : t ≠ .boolean := by
    rintro rfl
    simp [comparison?] at h
  have hnull : operator ≠ "is_null" ∧ operator ≠ "is_not_null" := by
    constructor <;> (rintro rfl; cases t <;> simp [comparison?] at h)
  simp only [test?, hnull.1, hnull.2, htype, false_and, if_false, h]

theorem FieldType.test?_between {t : FieldType} (h : t.hasRanges = true) :
    t.test? "between" = some .range := by
  cases t with
  | number => rfl
  | datetime => rfl
  | _ => simp [hasRanges] at h

/-- Texts are tested by the pattern that the operator makes. -/
theorem ColumnTest.ofTextOperator?_formula (c : Column) (operator value value2 : String) :
    (ofTextOperator? operator).map (formula c value value2)
      = (likePattern? operator value).map fun made => .ok (.like made.1 c.ref made.2) := by
  unfold ofTextOperator? likePattern?
  split <;> simp [formula]

/-- A condition has the formula of the test that its operator asks for. -/
theorem Stored.Attribute.predicate_eq (a : Stored.Attribute) (c : Column) :
    a.predicate c = ((c.type.test? a.operator).map (ColumnTest.formula c a.value a.value2)).getD
      (.error (.unsupportedOperator a.operator c.type)) := by
  unfold predicate FieldType.test?
  split
  · rfl
  split
  · rfl
  split
  · rfl
  split
  · rfl
  cases c.type.comparison? a.operator with
  | some op => rfl
  | none =>
      by_cases hrange : c.type.hasRanges = true ∧ a.operator = "between"
      · simp only [if_pos hrange]
        rfl
      · simp only [if_neg hrange]
        by_cases htext : c.type = .text
        · simp only [htext, if_true, ColumnTest.ofTextOperator?_formula]
          cases likePattern? a.operator a.value <;> rfl
        · simp only [if_neg htext]
          split
          · next htype _ => exact absurd htype htext
          · rfl

theorem Stored.Attribute.predicate_eq_ok_iff {a : Stored.Attribute} {c : Column} {f : Formula} :
    a.predicate c = .ok f ↔
      ∃ test, c.type.test? a.operator = some test ∧ test.formula c a.value a.value2 = .ok f := by
  rw [predicate_eq]
  cases c.type.test? a.operator <;> simp

/-- A formula that asks for one column, by a comparison, a range, a pattern or its absence. -/
inductive Formula.TestsColumn (column : ColumnRef) : Formula → Prop where
  | compare (op : Comparison) (value : Scalar) : TestsColumn column (.compare column op value)
  | between (low high : Scalar) : TestsColumn column (.between column low high)
  | like (negated : Bool) (pattern : String) : TestsColumn column (.like negated column pattern)
  | isNull (negated : Bool) : TestsColumn column (.isNull negated column)

theorem ColumnTest.testsColumn {test : ColumnTest} {c : Column} {value value2 : String} {f : Formula}
    (h : test.formula c value value2 = .ok f) : f.TestsColumn c.ref := by
  cases test with
  | isNull negated =>
      obtain rfl := Except.ok.inj h
      exact .isNull negated
  | truth b =>
      obtain rfl := Except.ok.inj h
      exact .compare .equal (.bool b)
  | comparison op =>
      obtain ⟨v, -, hv⟩ := bind_eq_ok_iff.1 h
      obtain rfl := pure_eq_ok_iff.1 hv
      exact .compare op v
  | range =>
      obtain ⟨low, -, hlow⟩ := bind_eq_ok_iff.1 h
      obtain ⟨high, -, hhigh⟩ := bind_eq_ok_iff.1 hlow
      obtain rfl := pure_eq_ok_iff.1 hhigh
      exact .between low high
  | pattern negated ofText =>
      obtain rfl := Except.ok.inj h
      exact .like negated (ofText value)

/-- A condition on a column asks for that column and for nothing else. -/
theorem Stored.Attribute.testsColumn {a : Stored.Attribute} {c : Column} {f : Formula}
    (h : a.predicate c = .ok f) : f.TestsColumn c.ref := by
  obtain ⟨test, -, htest⟩ := predicate_eq_ok_iff.1 h
  exact test.testsColumn htest

/-! ## Which conditions compile -/

theorem Column.exists_value_iff (c : Column) (raw : String) :
    (∃ v, c.value raw = .ok v) ↔ (c.type.value? raw).isSome = true := by
  unfold Column.value
  cases c.type.value? raw <;> simp

namespace Stored.Attribute

/-- A condition has a formula when it has one on the column that the catalog knows. -/
theorem exists_formula_iff {a : Attribute} {c : Column} (hc : a.catalogColumn = .ok c) :
    (∃ f, a.formula = .ok f) ↔ ∃ f, a.predicate c = .ok f := by
  simp only [formula_eq_ok_iff, hc, Except.ok.injEq, exists_eq_left']
  constructor
  · rintro ⟨-, predicate, hp, -⟩
    exact ⟨predicate, hp⟩
  · rintro ⟨predicate, hp⟩
    exact ⟨_, predicate, hp, rfl⟩

/-- A comparison needs a value. -/
theorem exists_predicate_comparison_iff {a : Attribute} {c : Column} {op : Comparison}
    (hop : c.type.comparison? a.operator = some op) :
    (∃ f, a.predicate c = .ok f) ↔ (c.type.value? a.value).isSome = true := by
  rw [predicate_eq, FieldType.test?_of_comparison hop, ← c.exists_value_iff]
  simp only [Option.map_some, Option.getD_some, ColumnTest.formula, bind_eq_ok_iff, pure_eq_ok_iff]
  grind

/-- A range needs two values. -/
theorem exists_predicate_between_iff {a : Attribute} {c : Column} (hranges : c.type.hasRanges = true)
    (hop : a.operator = "between") :
    (∃ f, a.predicate c = .ok f) ↔
      (c.type.value? a.value).isSome = true ∧ (c.type.value? a.value2).isSome = true := by
  rw [predicate_eq, hop, FieldType.test?_between hranges, ← c.exists_value_iff, ← c.exists_value_iff]
  simp only [Option.map_some, Option.getD_some, ColumnTest.formula, bind_eq_ok_iff, pure_eq_ok_iff]
  grind

end Stored.Attribute

/-- Conditions of an event have filters together when each has a formula. -/
theorem exists_eventFilters_iff (as : List Stored.Attribute) :
    (∃ found, eventFilters as = .ok found) ↔ ∀ a ∈ as, ∃ f, a.formula = .ok f := by
  induction as with
  | nil => simp [eventFilters]
  | cons a as ih =>
      rw [List.forall_mem_cons, ← ih]
      simp only [eventFilters_cons_eq_ok_iff, Stored.Attribute.formula_eq_ok_iff]
      constructor
      · rintro ⟨-, c, hc, f, hf, rest, hrest, rfl⟩
        exact ⟨⟨_, c, hc, f, hf, rfl⟩, rest, hrest⟩
      · rintro ⟨⟨-, c, hc, f, hf, rfl⟩, rest, hrest⟩
        exact ⟨_, c, hc, f, hf, rest, hrest, rfl⟩

/-- A condition on events has a formula when each of its conditions on columns has one. -/
theorem Stored.Event.exists_formula_iff (e : Stored.Event) :
    (∃ f, e.formula = .ok f) ↔ ∀ a ∈ e.attributes, ∃ f, a.formula = .ok f := by
  rw [← exists_eventFilters_iff]
  simp only [formula_eq_ok_iff]
  constructor
  · rintro ⟨-, found, hfound, -⟩
    exact ⟨found, hfound⟩
  · rintro ⟨found, hfound⟩
    exact ⟨_, found, hfound, rfl⟩

/-! ## Which segments compile -/

/-- The conditions of a segment, at the root and in its groups. -/
def Stored.Tree.members (t : Stored.Tree) : List Stored.Condition :=
  t.conditions ++ t.groups.flatMap (·.conditions)

/-- Conditions have formulas together when each has one. -/
theorem exists_formulas_iff (cs : List Stored.Condition) :
    (∃ fs, formulas cs = .ok fs) ↔ ∀ c ∈ cs, ∃ f, c.formula = .ok f := by
  induction cs with
  | nil => simp [formulas]
  | cons c cs ih =>
      rw [List.forall_mem_cons, ← ih]
      simp only [formulas_cons_eq_ok_iff]
      constructor
      · rintro ⟨-, f, hf, rest, hrest, rfl⟩
        exact ⟨⟨f, hf⟩, rest, hrest⟩
      · rintro ⟨⟨f, hf⟩, rest, hrest⟩
        exact ⟨f :: rest, f, hf, rest, hrest, rfl⟩

theorem exists_groupFormulas_iff (gs : List Stored.Group) :
    (∃ fs, groupFormulas gs = .ok fs) ↔ ∀ c ∈ gs.flatMap (·.conditions), ∃ f, c.formula = .ok f := by
  induction gs with
  | nil => simp [groupFormulas]
  | cons g gs ih =>
      rw [List.flatMap_cons, List.forall_mem_append, ← ih, ← exists_formulas_iff]
      simp only [groupFormulas_cons_eq_ok_iff]
      constructor
      · rintro ⟨-, ms, hms, rest, hrest, rfl⟩
        exact ⟨⟨ms, hms⟩, rest, hrest⟩
      · rintro ⟨⟨ms, hms⟩, rest, hrest⟩
        exact ⟨_, ms, hms, rest, hrest, rfl⟩

/-- A segment compiles when each of its conditions does. -/
theorem Stored.Tree.exists_predicate_iff (t : Stored.Tree) (d : Dialect) :
    (∃ p, t.predicate d = .ok p) ↔ ∀ c ∈ t.members, ∃ f, c.formula = .ok f := by
  rw [Stored.Tree.members, List.forall_mem_append, ← exists_formulas_iff,
    ← exists_groupFormulas_iff]
  simp only [predicate_eq_ok_iff]
  constructor
  · rintro ⟨-, cs, hcs, gs, hgs, rfl⟩
    exact ⟨⟨cs, hcs⟩, gs, hgs⟩
  · rintro ⟨⟨cs, hcs⟩, gs, hgs⟩
    exact ⟨_, cs, hcs, gs, hgs, rfl⟩

/-! ## Where the formula of a condition stands -/

theorem mem_formulas {cs : List Stored.Condition} {fs : List Formula} (h : formulas cs = .ok fs)
    {c : Stored.Condition} (hc : c ∈ cs) : ∃ f ∈ fs, c.formula = .ok f := by
  induction cs generalizing fs with
  | nil => simp at hc
  | cons c' cs ih =>
      obtain ⟨f', hf', rest, hrest, rfl⟩ := formulas_cons_eq_ok_iff.1 h
      rcases List.mem_cons.mp hc with rfl | hc
      · exact ⟨f', List.mem_cons_self, hf'⟩
      · obtain ⟨f, hf, hcf⟩ := ih hrest hc
        exact ⟨f, List.mem_cons_of_mem _ hf, hcf⟩

/-- A group with members has a junction of their formulas. -/
theorem mem_groupFormulas {gs : List Stored.Group} {fs : List Formula}
    (h : groupFormulas gs = .ok fs) {g : Stored.Group} (hg : g ∈ gs) (hne : g.conditions ≠ []) :
    ∃ ms, formulas g.conditions = .ok ms ∧ .junction g.logic ms ∈ fs := by
  induction gs generalizing fs with
  | nil => simp at hg
  | cons g' gs ih =>
      obtain ⟨ms, hms, rest, hrest, rfl⟩ := groupFormulas_cons_eq_ok_iff.1 h
      rcases List.mem_cons.mp hg with rfl | hg
      · have hnot : g.conditions.isEmpty = false := by simpa using hne
        exact ⟨ms, hms, by simp [hnot]⟩
      · obtain ⟨ms', hms', hmem⟩ := ih hrest hg
        refine ⟨ms', hms', ?_⟩
        split
        · exact hmem
        · exact List.mem_cons_of_mem _ hmem

/-! ## Windows and counts -/

/-- A window that is kept has a positive length. -/
theorem Stored.Event.one_le_length {e : Stored.Event} {w : Window} (h : e.window? = some w) :
    1 ≤ w.length := by
  simp only [window?, Option.bind_eq_bind, Option.bind_eq_some_iff] at h
  obtain ⟨-, -, unit, -, length, -, hw⟩ := h
  split at hw
  · next hpos =>
      obtain rfl := Option.some.inj hw
      rw [Int64.lt_iff_toInt_lt] at hpos
      rw [Int64.le_iff_toInt_le]
      exact hpos
  · exact nomatch hw

/-- A count below one counts as one. -/
theorem one_le_max_one (n : Int64) : 1 ≤ max n 1 := by
  have hmax : max n 1 = if n ≤ 1 then 1 else n := rfl
  rw [hmax]
  split
  · decide
  · next hnot => exact (Int64.le_total 1 n).resolve_right hnot

/-- A condition on a column looks at no window. -/
theorem Stored.Attribute.windowStart_notMem {a : Stored.Attribute} {c : Column} {f : Formula}
    (h : a.predicate c = .ok f) (nested : Bool) (w : Window) :
    .windowStart w ∉ f.layout nested := by
  cases a.testsColumn h <;> simp [Formula.layout]

theorem windowStart_notMem_layoutFilters {as : List Stored.Attribute}
    {found : List Join × List Formula} (h : eventFilters as = .ok found) (w : Window) :
    .windowStart w ∉ layoutFilters found.2 := by
  induction as generalizing found with
  | nil =>
      obtain rfl := Except.ok.inj h
      simp [layoutFilters]
  | cons a as ih =>
      obtain ⟨c, -, f, hf, rest, hrest, rfl⟩ := eventFilters_cons_eq_ok_iff.1 h
      simp [layoutFilters, a.windowStart_notMem hf true w, ih hrest]

/-! ## Tokens -/

theorem layout_isInfix_layoutItems (logic : Logic) {f : Formula} {items : List Formula}
    (hf : f ∈ items) : f.layout true <:+: layoutItems logic items := by
  induction items with
  | nil => simp at hf
  | cons item items ih =>
      rw [layoutItems]
      rcases List.mem_cons.mp hf with rfl | hf
      · exact ⟨[.text s!" {logic.name} "], layoutItems logic items, by simp⟩
      · exact (ih hf).trans (List.suffix_append _ _).isInfix

/-- An item of a junction is written within it, nested or not. -/
theorem layout_isInfix_junction (logic : Logic) {f : Formula} {items : List Formula}
    (hf : f ∈ items) (nested : Bool) :
    ∃ inner, f.layout inner <:+: (Formula.junction logic items).layout nested := by
  match items, hf with
  | [item], hf =>
      rw [List.mem_singleton] at hf
      subst hf
      exact ⟨nested, by rw [Formula.layout]⟩
  | item :: next :: rest, hf =>
      refine ⟨true, ?_⟩
      simp only [Formula.layout]
      rcases List.mem_cons.mp hf with rfl | hf
      · exact ⟨if nested then [.text "("] else [], layoutItems logic (next :: rest)
          ++ if nested then [.text ")"] else [], by simp⟩
      · have hitems := layout_isInfix_layoutItems logic hf
        exact (hitems.trans (List.suffix_append _ _).isInfix).trans (List.prefix_append _ _).isInfix

/-- The formula of an event is written the same wherever it stands. -/
theorem Stored.Event.layout_formula {e : Stored.Event} {f : Formula} (h : e.formula = .ok f)
    (nested : Bool) : f.layout nested = f.layout false := by
  obtain ⟨found, -, rfl⟩ := formula_eq_ok_iff.1 h
  split
  · simp only [Formula.layout]
  · simp only [Formula.layout]
  · cases e.window? <;> simp only [extremeFormula, Formula.layout]
  · cases e.window? <;> simp only [extremeFormula, Formula.layout]

/-- The formula of an event stands as it is in the predicate of a segment. -/
theorem Stored.Tree.tokens_isInfix {t : Stored.Tree} {d : Dialect} {p : Predicate}
    (h : t.predicate d = .ok p) {e : Stored.Event} (he : .event e ∈ t.members) :
    ∃ f, e.formula = .ok f ∧ f.tokens d <:+: p.formula.tokens d := by
  obtain ⟨cs, hcs, gs, hgs, rfl⟩ := predicate_eq_ok_iff.1 h
  -- The event is an item of the root, or of a junction that is one.
  have hitem : ∃ f, e.formula = .ok f ∧
      ∃ item ∈ cs ++ gs, ∀ nested, f.layout false <:+: item.layout nested := by
    rcases List.mem_append.mp he with hroot | hgroup
    · obtain ⟨f, hf, hef⟩ := mem_formulas hcs hroot
      refine ⟨f, hef, f, List.mem_append_left _ hf, fun nested => ?_⟩
      rw [Stored.Event.layout_formula hef nested]
    · obtain ⟨g, hg, hmember⟩ := List.mem_flatMap.1 hgroup
      obtain ⟨ms, hms, hjunction⟩ := mem_groupFormulas hgs hg (List.ne_nil_of_mem hmember)
      obtain ⟨f, hf, hef⟩ := mem_formulas hms hmember
      refine ⟨f, hef, _, List.mem_append_right _ hjunction, fun nested => ?_⟩
      obtain ⟨inner, hinner⟩ := layout_isInfix_junction g.logic hf nested
      rwa [Stored.Event.layout_formula hef inner] at hinner
  obtain ⟨f, hef, item, hmem, hlayout⟩ := hitem
  have hne : (cs ++ gs).isEmpty = false := by
    rw [List.isEmpty_eq_false_iff]
    exact List.ne_nil_of_mem hmem
  obtain ⟨outer, houter⟩ := layout_isInfix_junction t.logic hmem false
  refine ⟨f, hef, ?_⟩
  rw [if_neg (by simp only [hne, Bool.false_eq_true, not_false_eq_true])]
  exact ((hlayout outer).trans houter).flatMap _

end Audience
