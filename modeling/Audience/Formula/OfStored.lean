import Audience.Calendar
import Audience.Catalog
import Audience.Formula.Like
import Audience.Formula.Render
import Audience.Stored.Basic

set_option autoImplicit false

/-! # From stored segments to formulas

Columns of a formula come from the catalog alone. A condition on a column of the customers is a plain
comparison; one on any other column asks for a transaction of the customer. An event asks for a
number of transactions, for none, or for the date of the first or the last one. The first condition
that cannot be put into SQL stops it all. -/

namespace Audience

/-- Why a condition cannot be put into SQL. -/
inductive CompileError where
  | unknownColumn (dataset column : String)
  | unsupportedOperator (operator : String) (type : FieldType)
  | invalidValue (column : Column) (value : String)
  deriving DecidableEq

namespace CompileError

/-- The name of the kind of error. -/
def kind : CompileError → String
  | .unknownColumn _ _ => "UnknownColumn"
  | .unsupportedOperator _ _ => "UnsupportedOperator"
  | .invalidValue _ _ => "InvalidValue"

/-- The words for an error. -/
def message : CompileError → String
  | .unknownColumn dataset column => s!"unknown column '{dataset}.{column}'"
  | .unsupportedOperator operator type =>
    s!"operator '{operator}' is not supported for {type.name} columns"
  | .invalidValue column value =>
    s!"value '{value}' is not valid for column '{column.dataset.name}.{column.name}'"

end CompileError

/-! ## Columns -/

/-- The name that statements give to a dataset's table. -/
def Dataset.tableName : Dataset → String
  | .customers => "c"
  | .transactions => "t"
  | .productLines => "p"
  | .stores => "s"

/-- The table that has to be joined to the transactions for a dataset. -/
def Dataset.join? : Dataset → Option Join
  | .productLines => some .productLines
  | .stores => some .stores
  | _ => none

/-- A column under the name of its table. -/
def Column.ref (c : Column) : ColumnRef :=
  ⟨c.dataset.tableName, c.name⟩

/-- The catalog column of a stored condition. Without a dataset the first column of that name is
taken. -/
def Stored.Attribute.catalogColumn (a : Stored.Attribute) : Except CompileError Column :=
  let found :=
    if Text.isAllBlank a.dataset then Catalog.locate a.column
    else Catalog.lookup a.dataset a.column
  match found with
  | some c => .ok c
  | none => .error (.unknownColumn a.dataset a.column)

/-! ## Values -/

/-- The value that a stored text stands for in a column of a given type. Columns of truth values are
never compared with one. -/
def FieldType.value? (t : FieldType) (raw : String) : Option Scalar :=
  match t with
  | .number => Scalar.ofNumberText? raw
  | .datetime =>
    let cs := Text.trim raw.toList
    if Calendar.isDateText cs || Calendar.isInstantText cs then some (.text (.ofList cs)) else none
  | _ => some (.text raw)

/-- The value of a stored text for a column. -/
def Column.value (c : Column) (raw : String) : Except CompileError Scalar :=
  match c.type.value? raw with
  | some v => .ok v
  | none => .error (.invalidValue c raw)

/-! ## Conditions -/

/-- The comparison that an operator asks for in a column of a given type. -/
def FieldType.comparison? (t : FieldType) (operator : String) : Option Comparison :=
  match t, operator with
  | .boolean, _ => none
  | _, "equals" => some .equal
  | _, "not_equals" => some .notEqual
  | .number, "greater_than" => some .greater
  | .datetime, "after" => some .greater
  | .number, "greater_than_or_equal" => some .greaterOrEqual
  | .number, "less_than" => some .less
  | .datetime, "before" => some .less
  | .number, "less_than_or_equal" => some .lessOrEqual
  | _, _ => none

/-- Whether the values of a type can lie between two others. -/
def FieldType.hasRanges : FieldType → Bool
  | .number => true
  | .datetime => true
  | _ => false

/-- The pattern that an operator makes of a text, and whether it is to match. -/
def likePattern? (operator value : String) : Option (Bool × String) :=
  match operator with
  | "contains" => some (false, Like.containing value)
  | "not_contains" => some (true, Like.containing value)
  | "starts_with" => some (false, Like.startingWith value)
  | "ends_with" => some (false, Like.endingWith value)
  | _ => none

/-- The formula of a stored condition on a given column, without a subquery. -/
def Stored.Attribute.predicate (a : Stored.Attribute) (c : Column) : Except CompileError Formula :=
  if a.operator = "is_null" then .ok (.isNull false c.ref)
  else if a.operator = "is_not_null" then .ok (.isNull true c.ref)
  else if c.type = .boolean ∧ a.operator = "is_true" then .ok (.compare c.ref .equal (.bool true))
  else if c.type = .boolean ∧ a.operator = "is_false" then .ok (.compare c.ref .equal (.bool false))
  else match c.type.comparison? a.operator with
    | some op => do return .compare c.ref op (← c.value a.value)
    | none =>
      if c.type.hasRanges ∧ a.operator = "between" then do
        let low ← c.value a.value
        let high ← c.value a.value2
        return .between c.ref low high
      else match c.type, likePattern? a.operator a.value with
        | .text, some (negated, pattern) => .ok (.like negated c.ref pattern)
        | _, _ => .error (.unsupportedOperator a.operator c.type)

/-- The formula of a condition on a column. -/
def Stored.Attribute.formula (a : Stored.Attribute) : Except CompileError Formula := do
  let c ← a.catalogColumn
  let predicate ← a.predicate c
  if c.dataset = .customers then return predicate
  else return .exists false ⟨c.dataset.join?.toList, none, none⟩ [predicate]

/-! ## Events -/

/-- The window of an event: its unit has to be known and its length positive. -/
def Stored.Event.window? (e : Stored.Event) : Option Window := do
  let unit ← Term.parse? (← e.unit)
  let length ← e.length
  if 0 < length then some ⟨unit, length⟩ else none

/-- The joins and filters of the conditions of an event. -/
def eventFilters : List Stored.Attribute → Except CompileError (List Join × List Formula)
  | [] => .ok ([], [])
  | a :: rest => do
    let c ← a.catalogColumn
    let predicate ← a.predicate c
    let (joins, filters) ← eventFilters rest
    return (c.dataset.join?.toList ++ joins, predicate :: filters)

/-- The date of the first or the last transaction within a window; without one, any transaction. -/
def extremeFormula (extreme : Extreme) (joins : List Join) (filters : List Formula) :
    Option Window → Formula
  | some w => .eventDate extreme ⟨joins, none, none⟩ filters w
  | none => .exists false ⟨joins, none, none⟩ filters

/-- The formula of a condition on events. A count below one counts as one, and whatever the
qualifier, at least so many transactions are asked for. -/
def Stored.Event.formula (e : Stored.Event) : Except CompileError Formula := do
  let (joins, filters) ← eventFilters e.attributes
  return match (Term.parse e.type : EventType) with
    | .performed => .exists false ⟨joins, e.window?, some (max e.count 1)⟩ filters
    | .notPerformed => .exists true ⟨joins, e.window?, none⟩ filters
    | .firstTime => extremeFormula .first joins filters e.window?
    | .lastTime => extremeFormula .last joins filters e.window?

/-- The formula of a condition. -/
def Stored.Condition.formula : Stored.Condition → Except CompileError Formula
  | .attribute a => a.formula
  | .event e => e.formula

/-! ## Trees -/

/-- The formulas of conditions in order. -/
def formulas : List Stored.Condition → Except CompileError (List Formula)
  | [] => .ok []
  | c :: rest => do
    let f ← c.formula
    let fs ← formulas rest
    return f :: fs

/-- The formulas of groups in order; a group without members has none. -/
def groupFormulas : List Stored.Group → Except CompileError (List Formula)
  | [] => .ok []
  | g :: rest => do
    let members ← formulas g.conditions
    let fs ← groupFormulas rest
    return if g.conditions.isEmpty then fs else .junction g.logic members :: fs

/-- The formula of a segment: its conditions and groups, joined by its operator. -/
def Stored.Tree.formula (t : Stored.Tree) : Except CompileError Formula := do
  let conditions ← formulas t.conditions
  let groups ← groupFormulas t.groups
  let items := conditions ++ groups
  return if items.isEmpty then .always else .junction t.logic items

/-- The predicate of a segment in a dialect. -/
def Stored.Tree.predicate (t : Stored.Tree) (d : Dialect) : Except CompileError Predicate := do
  return ⟨d, ← t.formula⟩

end Audience
