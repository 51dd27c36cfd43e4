import Audience.Criteria.Normalize
import Audience.Formula.OfStored

set_option autoImplicit false

/-! # The vocabulary stands for itself

Whatever normalizing takes from the vocabulary is recognised again as what it is: the code of a term
names that term, and the code of an operator is one of its type, in which the code of another operator
stands for nothing. -/

namespace Audience

/-! ## Terms -/

/-- Terms whose codes name them. -/
class LawfulTerm (α : Type) [Term α] : Prop where
  parse?_code : ∀ t : α, Term.parse? (Term.code t) = some t

instance : LawfulTerm EventType where
  parse?_code t := by cases t <;> decide

instance : LawfulTerm Qualifier where
  parse?_code t := by cases t <;> decide

instance : LawfulTerm TimeUnit where
  parse?_code t := by cases t <;> decide

@[simp] theorem Term.parse?_code {α : Type} [Term α] [LawfulTerm α] (t : α) :
    Term.parse? (Term.code t) = some t :=
  LawfulTerm.parse?_code t

@[simp] theorem Term.parse_code {α : Type} [Term α] [LawfulTerm α] (t : α) :
    Term.parse (Term.code t) = t := by
  simp [Term.parse]

@[simp] theorem Criteria.unitOf?_code (u : TimeUnit) : unitOf? (Term.code u) = some u := by
  simp [unitOf?]

/-! ## Operators -/

namespace FieldType

theorem mem_operators_matchOperator (t : FieldType) (raw : String) :
    (t.matchOperator raw).operator ∈ t.operators := by
  unfold matchOperator
  split
  · next op h => exact List.mem_of_find?_eq_some h
  · dsimp only
    split
    · next op h => exact List.mem_of_find?_eq_some h
    · exact List.mem_cons_self

/-- The codes of a type are distinct. -/
theorem operator?_code {t : FieldType} {op : Operator} (h : op ∈ t.operators) :
    t.operator? op.code = some op := by
  have hcodes : ∀ op ∈ t.operators, t.operator? op.code = some op := by
    cases t <;> decide
  exact hcodes op h

/-- The code of an operator stands for that operator. -/
theorem matchOperator_code {t : FieldType} {op : Operator} (h : op ∈ t.operators) :
    (t.matchOperator op.code).code = op.code := by
  rw [matchOperator, operator?_code h]
  rfl

/-- An operator that was recognised, or put in place of another, is recognised. -/
@[simp] theorem matchOperator_matchOperator (t : FieldType) (raw : String) :
    (t.matchOperator (t.matchOperator raw).code).code = (t.matchOperator raw).code :=
  matchOperator_code (t.mem_operators_matchOperator raw)

/-- No type has the operator of age ranges. -/
theorem matchOperator_ne_ageBetween (t : FieldType) (raw : String) :
    (t.matchOperator raw).code ≠ ageBetween := by
  have hcodes : ∀ op ∈ t.operators, op.code ≠ ageBetween := by
    cases t <;> decide
  exact hcodes _ (t.mem_operators_matchOperator raw)

/-- Which types have the operator of ranges. -/
theorem matchOperator_between_iff (t : FieldType) :
    (t.matchOperator "between").code = "between" ↔ t.hasRanges = true := by
  cases t <;> decide

end FieldType

/-! ## Columns -/

namespace Catalog

theorem mem_columns_of_lookup {dataset column : String} {c : Column}
    (h : lookup dataset column = some c) : c ∈ columns :=
  List.mem_of_find?_eq_some h

/-- Only columns of texts have mappings. -/
theorem fieldType_of_mapping {dataset column : String} {category : Category}
    (h : mapping dataset column = some category) : fieldType dataset column = .text := by
  have htext : ∀ c ∈ columns, c.mapping ≠ none → c.type = .text := by decide
  unfold mapping at h
  unfold fieldType
  cases hfind : lookup dataset column with
  | none => rfl
  | some c =>
      rw [hfind, Option.bind_some] at h
      exact htext c (mem_columns_of_lookup hfind) (by simp [h])

end Catalog

/-! ## Counts -/

/-- A count that is not negative is left alone. -/
@[simp] theorem max_max_zero (n : Int64) : max (max n 0) 0 = max n 0 := by
  by_cases h : n ≤ 0
  · simp [max, h]
  · simp [max, h]

end Audience
