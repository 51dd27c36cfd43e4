import Audience.Text.Ascii
import Audience.Text.Blank

set_option autoImplicit false

/-! # Field types and their operators

Every field has a type, and every type a list of operators that may be applied to it. Operators are
given by code or by the label shown to users. The first operator of a type stands in for whatever is
not recognised. -/

namespace Audience

/-- The type of a field. -/
inductive FieldType where
  | text
  | number
  | datetime
  | boolean
  | array
  deriving DecidableEq

namespace FieldType

/-- Every type, in the order of the registry. -/
def all : List FieldType :=
  [.text, .number, .datetime, .boolean, .array]

/-- The name of a type. -/
def name : FieldType → String
  | .text => "text"
  | .number => "number"
  | .datetime => "datetime"
  | .boolean => "boolean"
  | .array => "array"

end FieldType

/-- An operator: its code and its label. -/
structure Operator where
  code : String
  label : String
  deriving DecidableEq

namespace FieldType

/-- The operator that stands in for an unknown one. -/
def defaultOperator : FieldType → Operator
  | .text => ⟨"equals", "Equals"⟩
  | .number => ⟨"equals", "Equals"⟩
  | .datetime => ⟨"equals", "On"⟩
  | .boolean => ⟨"is_true", "Is true"⟩
  | .array => ⟨"contains", "Contains"⟩

/-- The operators after the default one. -/
def furtherOperators : FieldType → List Operator
  | .text => [
    ⟨"not_equals", "Does not equal"⟩,
    ⟨"contains", "Contains"⟩,
    ⟨"not_contains", "Does not contain"⟩,
    ⟨"starts_with", "Starts with"⟩,
    ⟨"ends_with", "Ends with"⟩,
    ⟨"is_null", "Is empty"⟩,
    ⟨"is_not_null", "Is not empty"⟩]
  | .number => [
    ⟨"not_equals", "Does not equal"⟩,
    ⟨"greater_than", "Greater than"⟩,
    ⟨"greater_than_or_equal", "Greater than or equal"⟩,
    ⟨"less_than", "Less than"⟩,
    ⟨"less_than_or_equal", "Less than or equal"⟩,
    ⟨"between", "Between"⟩,
    ⟨"is_null", "Is empty"⟩,
    ⟨"is_not_null", "Is not empty"⟩]
  | .datetime => [
    ⟨"not_equals", "Not on"⟩,
    ⟨"before", "Before"⟩,
    ⟨"after", "After"⟩,
    ⟨"between", "Between"⟩,
    ⟨"is_null", "Is empty"⟩,
    ⟨"is_not_null", "Is not empty"⟩]
  | .boolean => [
    ⟨"is_false", "Is false"⟩,
    ⟨"is_null", "Is empty"⟩,
    ⟨"is_not_null", "Is not empty"⟩]
  | .array => [
    ⟨"not_contains", "Does not contain"⟩,
    ⟨"is_empty", "Is empty"⟩,
    ⟨"is_not_empty", "Is not empty"⟩]

/-- The operators of a type, the default one first. -/
def operators (t : FieldType) : List Operator :=
  t.defaultOperator :: t.furtherOperators

/-- The operator of a given code. -/
def operator? (t : FieldType) (code : String) : Option Operator :=
  t.operators.find? (·.code == code)

end FieldType

/-- How an operator was recognised. -/
inductive OperatorMatch where
  | byCode (op : Operator)
  | byLabel (op : Operator)
  | defaulted (op : Operator)
  deriving DecidableEq

namespace OperatorMatch

/-- The operator that was chosen. -/
def operator : OperatorMatch → Operator
  | .byCode op => op
  | .byLabel op => op
  | .defaulted op => op

/-- The code of the operator that was chosen. -/
def code (m : OperatorMatch) : String :=
  m.operator.code

/-- Whether the default operator had to stand in. -/
def isDefaulted : OperatorMatch → Bool
  | .defaulted _ => true
  | _ => false

end OperatorMatch

namespace FieldType

/-- Recognise an operator of a type: by its exact code, else by its label in any case and with blanks
around it, else the default one stands in. -/
def matchOperator (t : FieldType) (raw : String) : OperatorMatch :=
  match t.operator? raw with
  | some op => .byCode op
  | none =>
    let label := Text.trimmed raw
    match t.operators.find? fun op => Text.sameIgnoringCase op.label label with
    | some op => .byLabel op
    | none => .defaulted t.defaultOperator

end FieldType

end Audience
