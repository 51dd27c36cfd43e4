import Audience.Proofs.Compiler.Sentences
import Audience.Proofs.Criteria.Members
import Audience.Proofs.Criteria.Vocabulary

set_option autoImplicit false

/-! # Amounts of events

An event may compare its amount, by any operator that numbers have. Each of them is put into SQL but one: a
range takes two values, and an event has only one to compare its amount with. The other end of the range is
stored as an empty text, which is no number. So events that compare their amounts with integers compile
unless one of them asks for a range, under whatever spelling of `between`
(`Compiler.amounts_compile_iff`). -/

namespace Audience

open Mapping (Cache)

/-! ## Ranges among the operators of numbers -/

/-- Only spellings of `between` are taken for the operator of ranges. -/
theorem FieldType.matchOperator_eq_between_iff (raw : String) :
    (number.matchOperator raw).code = "between" ↔
      Text.sameIgnoringCase "between" (Text.trimmed raw) = true := by
  have hcodes : ∀ op ∈ number.operators,
      op.code = "between" ↔ Text.sameIgnoringCase "between" (Text.trimmed op.code) = true := by
    decide +kernel
  have hlabels : ∀ op ∈ number.operators,
      op.code = "between" ↔ "between".toList.map Text.asciiLower = op.label.toList.map Text.asciiLower := by
    decide +kernel
  unfold matchOperator
  -- The operator is found by its code, by its label, or not at all.
  split
  · next op hop =>
      have hcode : op.code = raw := by simpa using List.find?_some hop
      rw [← hcode]
      exact hcodes op (List.mem_of_find?_eq_some hop)
  · dsimp only
    split
    · next op hop =>
        have hlabel := List.find?_some hop
        simp only [Text.sameIgnoringCase, beq_iff_eq] at hlabel ⊢
        rw [← hlabel]
        exact hlabels op (List.mem_of_find?_eq_some hop)
    · next hnone =>
        refine iff_of_false (by decide) fun hbetween => ?_
        have hlabel : "Between".toList.map Text.asciiLower = "between".toList.map Text.asciiLower := by
          decide
        have hfound := List.find?_eq_none.1 hnone ⟨"between", "Between"⟩ (by decide)
        rw [Text.sameIgnoringCase, hlabel] at hfound
        exact hfound hbetween

namespace Criteria

/-- An event that compares its amount with an integer, and has no other conditions. -/
inductive Condition.IsAmount : Condition → Prop
  | event (name : String) (type : Option String) (operator : String) (n : Int64)
      (frequency : Option Frequency) (period : Option Period) :
      IsAmount (.event ⟨name, type, some operator, .int n, frequency, period, []⟩)

/-- An event whose operator spells `between`, in any case and with blanks around it. -/
def Condition.AsksForRange : Condition → Prop
  | .attribute _ => False
  | .event e => ∃ raw ∈ e.operator, Text.sameIgnoringCase "between" (Text.trimmed raw) = true

/-! ## Formulas of amounts -/

/-- Every operator of numbers but that of ranges makes do with one integer. -/
theorem exists_test_amount {op : Operator} (hop : op ∈ FieldType.number.operators)
    (hbetween : op.code ≠ "between") (n : Int64) (value2 : String) :
    ∃ test f, FieldType.number.test? op.code = some test ∧
      test.formula Sentence.totalAmount (Scalar.int n).display value2 = .ok f := by
  by_cases hnull : op.code ∈ ["is_null", "is_not_null"]
  · rcases List.mem_pair.1 hnull with h | h
    · exact ⟨.isNull false, _, by rw [h]; rfl, rfl⟩
    · exact ⟨.isNull true, _, by rw [h]; rfl, rfl⟩
  · have hcompares : (FieldType.number.comparison? op.code).isSome = true :=
      FieldType.comparison?_number op hop (by simp [hbetween, hnull])
    obtain ⟨comparison, hcomparison⟩ := Option.isSome_iff_exists.1 hcompares
    exact ⟨_, _, FieldType.test?_of_comparison hcomparison,
      ColumnTest.formula_comparison comparison (Column.value_int rfl n)⟩

/-- A comparison of the amount with one integer fails when it asks for a range, for want of a second value,
and only then. -/
theorem Attribute.formula_amount_eq_error_iff {op : Operator} (hop : op ∈ FieldType.number.operators)
    (n : Int64) (fallback : String) (e : CompileError) :
    (on Sentence.totalAmount op.code (.int n) .null).formula fallback = .error e ↔
      op.code = "between" ∧ e = .invalidValue Sentence.totalAmount "" := by
  by_cases hbetween : op.code = "between"
  · have hvalue : Sentence.totalAmount.value (Scalar.int n).display = .ok (.int n) :=
      Column.value_int rfl n
    have hnull : Sentence.totalAmount.value Scalar.null.display
        = .error (.invalidValue Sentence.totalAmount "") := Column.value_null rfl
    rw [hbetween, formula_on_eq_error_iff (FieldType.test?_between rfl) Sentence.lookup_totalAmount,
      ColumnTest.formula, hvalue, hnull]
    simp [bind, Except.bind, eq_comm]
  · obtain ⟨test, f, htest, hf⟩ := exists_test_amount hop hbetween n Scalar.null.display
    rw [formula_on_eq_error_iff htest Sentence.lookup_totalAmount, hf]
    simp [hbetween]

/-- An amount fails when it asks for a range, whatever its event is and how often it has to happen. -/
theorem Condition.IsAmount.formula_eq_error_iff {c c' : Condition} (h : c.IsAmount) {s : Setting}
    (hc : c.Becomes s c') (e : CompileError) :
    c'.formula = .error e ↔ c.AsksForRange ∧ e = .invalidValue Sentence.totalAmount "" := by
  obtain ⟨name, type, raw, n, frequency, period⟩ := h
  obtain ⟨clock, cache, rfl⟩ := hc
  have hattributes : ∀ e' : Event, e'.operator = some (FieldType.number.matchOperator raw).code →
      e'.value = .int n → e'.attributes = [] → Stored.eventAttributes e'
        = [.on Sentence.totalAmount (FieldType.number.matchOperator raw).code (.int n) .null] := by
    intro e' hoperator hvalue hnone
    rw [Sentence.eventAttributes_amount hoperator (by rw [hvalue]; rfl) hnone, hvalue]
  have hrange : Condition.AsksForRange (.event ⟨name, type, some raw, .int n, frequency, period, []⟩) ↔
      (FieldType.number.matchOperator raw).code = "between" := by
    rw [FieldType.matchOperator_eq_between_iff]
    simp [AsksForRange]
  rw [hrange]
  refine (formula_event_eq_error_iff _ e).trans ?_
  rw [hattributes _ rfl rfl rfl, failsFirst_singleton_iff]
  exact Attribute.formula_amount_eq_error_iff (FieldType.number.mem_operators_matchOperator raw) n _ e

/-- Customers with a purchase in the last three months whose amount compares with 100. -/
def paid (operator : String) : Tree :=
  ⟨[.event ⟨"purchase", none, some operator, .int 100, none, some ⟨"month", 3⟩, []⟩], [], .and⟩

end Criteria

namespace Compiler

/-- **Amounts compile unless they ask for a range.** A tree of events that compare their amounts with
integers, at its root and in its groups, compiles when none of their operators spells `between`, and only
then: whatever other operator is given and however it is written, whatever the types of the events and how
often and how far back they have to have happened. Otherwise it is the other end of the range that is no
number. The store, the deadline, the dialect and the cache play no part. -/
theorem amounts_compile_iff (c : Compiler) {t : Criteria.Tree} (h : ∀ x ∈ t.members, x.IsAmount)
    (cache : Cache) :
    ((∃ p, c.compileSql ((c.compileTree t).run cache).1 = .ok p) ↔
      ∀ x ∈ t.members, ¬ x.AsksForRange) ∧
    ∀ e, c.compileSql ((c.compileTree t).run cache).1 = .error e →
      e = .invalidValue Sentence.totalAmount "" := by
  have hfails : ∀ x ∈ t.members, ∀ x', x.Becomes c.setting x' → ∀ e,
      x'.formula = .error e ↔ x.AsksForRange ∧ e = .invalidValue Sentence.totalAmount "" :=
    fun x hx x' hbecomes e => (h x hx).formula_eq_error_iff hbecomes e
  have hplaces := t.forall₂_normalize c.setting cache
  constructor
  · refine (Criteria.Tree.exists_predicate_iff_formula _ _).trans ?_
    refine forall_mem_iff_of_forall₂ hplaces fun x hx x' hbecomes => ?_
    rw [exists_eq_ok_iff]
    simp [hfails x hx x' hbecomes]
  · intro e he
    obtain ⟨x', hx', hfailed⟩ := ((Criteria.Tree.predicate_eq_error_iff _ _ e).1 he).exists_mem
    refine forall_mem_of_forall₂ hplaces (p := fun x' => x'.formula = .error e → _) ?_ x' hx'
      hfailed
    intro x hx x' hbecomes hfailed
    exact ((hfails x hx x' hbecomes e).1 hfailed).2

/-- An operator by its label, in another case and with a blank after it. -/
theorem amounts_compile_iff_label :
    (∀ x ∈ (Criteria.paid "greater Than ").members, x.IsAmount) ∧
      ∃ p, standalone.compileSql
        ((standalone.compileTree (Criteria.paid "greater Than ")).run .standard).1 = .ok p := by
  have hamount : ∀ x ∈ (Criteria.paid "greater Than ").members, x.IsAmount :=
    List.forall_mem_singleton.2 (.event "purchase" none "greater Than " 100 none (some ⟨"month", 3⟩))
  have hrange : ∀ x ∈ (Criteria.paid "greater Than ").members, ¬ x.AsksForRange := by
    refine List.forall_mem_singleton.2 ?_
    rintro ⟨raw, hraw, hbetween⟩
    obtain rfl := Option.some.inj hraw
    exact absurd hbetween (by decide)
  exact ⟨hamount, ((amounts_compile_iff standalone hamount .standard).1).2 hrange⟩

/-- One operator of numbers that is taken for amounts, and that no amount compiles with. -/
theorem not_amounts_compile_between :
    "between" ∈ FieldType.number.operators.map (·.code) ∧
      (∀ x ∈ (Criteria.paid "between").members, x.IsAmount) ∧
      standalone.compileSql ((standalone.compileTree (Criteria.paid "between")).run .standard).1
        = .error (.invalidValue Sentence.totalAmount "") := by
  refine ⟨by decide, ?_, rfl⟩
  exact List.forall_mem_singleton.2 (.event "purchase" none "between" 100 none (some ⟨"month", 3⟩))

end Compiler

end Audience
