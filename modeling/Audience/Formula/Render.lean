import Audience.Formula.Basic

set_option autoImplicit false

/-! # Writing formulas

A renderer writes a formula at the end of the text so far. It binds each value as it comes to it, and
puts down the placeholder of its number; or it writes values in place as literals, for people, and
binds nothing. What it has bound by then is its state. -/

namespace Audience

/-- The dialects of SQL. -/
inductive Dialect where
  | postgres
  | sqlite
  deriving DecidableEq

namespace Dialect

/-- The name of a dialect. -/
def name : Dialect → String
  | .postgres => "postgres"
  | .sqlite => "sqlite"

/-- The dialect a text names. -/
def parse? (raw : String) : Option Dialect :=
  let name := Text.asciiLowered (Text.trimmed raw)
  if ["postgres", "postgresql", "pg"].contains name then some .postgres
  else if ["sqlite", "sqlite3"].contains name then some .sqlite
  else none

/-- The placeholder of the value of a given number. -/
def placeholder (d : Dialect) (n : Nat) : String :=
  match d with
  | .postgres => s!"${n}"
  | .sqlite => s!"?{n}"

end Dialect

/-! ## Words -/

/-- A column with the name of its table. -/
def ColumnRef.text (c : ColumnRef) : String :=
  c.table ++ "." ++ c.name

/-- The word for a negation, if there is one. -/
def notIf (negated : Bool) : String :=
  if negated then "NOT " else ""

/-- The clause that joins a table to the transactions. -/
def Join.clause : Join → String
  | .productLines => " JOIN product_lines p ON p.product_line_id = t.product_line_id"
  | .stores => " JOIN stores s ON s.store_id = t.store_id"

/-- The order of joins: product lines first. -/
def Join.le : Join → Join → Bool
  | .stores, .productLines => false
  | _, _ => true

/-- The function that takes the first or the last date. -/
def Extreme.function : Extreme → String
  | .first => "MIN"
  | .last => "MAX"

/-- Seven times a number, kept within 64 bits. -/
def timesSeven (n : Int64) : Int64 :=
  .ofInt (max Int64.minValue.toInt (min Int64.maxValue.toInt (n.toInt * 7)))

/-- The modifier that takes a window off today's date. Weeks are counted in days. -/
def Window.modifier (w : Window) : String :=
  match w.unit with
  | .days => s!"-{Number.int64Text w.length} days"
  | .weeks => s!"-{Number.int64Text (timesSeven w.length)} days"
  | .months => s!"-{Number.int64Text w.length} months"

/-- A text in single quotes, where a quote is written twice. -/
def singleQuoted (s : String) : String :=
  .ofList ('\'' :: s.toList.flatMap (fun c => if c = '\'' then ['\'', '\''] else [c]) ++ ['\''])

/-- A value as a literal. -/
def Scalar.literal : Scalar → String
  | .null => "NULL"
  | .bool true => "TRUE"
  | .bool false => "FALSE"
  | .int n => (Scalar.int n).display
  | .float x => (Scalar.float x).display
  | .text s => singleQuoted s

/-! ## Renderers -/

/-- What writes a formula: its dialect, whether values are written in place, and the values that are
bound so far. -/
structure Renderer where
  dialect : Dialect
  inline : Bool
  params : List Scalar

namespace Renderer

/-- A renderer that binds every value to a numbered placeholder. -/
def bound (d : Dialect) : Renderer :=
  ⟨d, false, []⟩

/-- A renderer that writes values as literals. -/
def inlining (d : Dialect) : Renderer :=
  ⟨d, true, []⟩

/-- What stands for a value: its literal, or the placeholder it is bound to from now on. -/
def value (v : Scalar) : StateM Renderer String := do
  if (← get).inline then
    return v.literal
  else
    modify fun r => { r with params := r.params ++ [v] }
    let r ← get
    return r.dialect.placeholder r.params.length

/-- The start of a window. -/
def windowStart (w : Window) : StateM Renderer String := do
  match (← get).dialect with
  | .postgres =>
    let amount ← value (.int w.length)
    return s!"NOW() - make_interval({Term.code w.unit} => {amount})"
  | .sqlite =>
    let modifier ← value (.text w.modifier)
    return s!"date('now', {modifier})"

/-- Writes joins: each at most once, in order. -/
def writeJoins (out : String) (joins : List Join) : String :=
  (joins.mergeSort Join.le).eraseReps.foldl (fun out join => out ++ join.clause) out

/-- Writes how far a subquery looks back. -/
def writeSince (window : Option Window) (out : String) : StateM Renderer String := do
  match window with
  | some w =>
    let start ← windowStart w
    return out ++ s!" AND t.transaction_date >= {start}"
  | none => return out

/-- Writes how many transactions a subquery asks for at least. -/
def writeLeast (minCount : Option Int64) (out : String) : StateM Renderer String := do
  match minCount with
  | some n =>
    let least ← value (.int n)
    return out ++ s!" GROUP BY t.customer_id HAVING COUNT(*) >= {least}"
  | none => return out

/-- Writes a subquery from its tables to its least count, with what writes its filters. -/
def writeBody (scope : Scope) (writeFilters : String → StateM Renderer String) (out : String) :
    StateM Renderer String := do
  let out := writeJoins (out ++ " FROM transactions t") scope.joins
  let out ← writeFilters (out ++ " WHERE t.customer_id = c.customer_id")
  let out ← writeSince scope.window out
  writeLeast scope.minCount out

mutual

/-- Writes a formula. A junction of several items is put in parentheses when it stands within something
else; of one item only the item is written, and of none what always holds. -/
def writeExpr (out : String) (nested : Bool) : Formula → StateM Renderer String
  | .always => return out ++ "TRUE"
  | .compare column op v => do
    let right ← value v
    return out ++ s!"{column.text} {op.symbol} {right}"
  | .between column low high => do
    let low ← value low
    let high ← value high
    return out ++ s!"{column.text} BETWEEN {low} AND {high}"
  | .like negated column pattern => do
    let right ← value (.text pattern)
    return out ++ s!"{column.text} {notIf negated}LIKE {right} ESCAPE '\\'"
  | .isNull negated column => return out ++ s!"{column.text} IS {notIf negated}NULL"
  | .exists negated scope filters => do
    let out := out ++ s!"{notIf negated}EXISTS (SELECT 1"
    let out ← writeBody scope (fun out => writeEach " AND " out filters) out
    return out ++ ")"
  | .eventDate extreme scope filters window => do
    let out := out ++ s!"(SELECT {extreme.function}(t.transaction_date)"
    let out ← writeBody scope (fun out => writeEach " AND " out filters) out
    let out := out ++ ") >= "
    let start ← windowStart window
    return out ++ start
  | .junction _ [] => return out ++ "TRUE"
  | .junction _ [item] => writeExpr out nested item
  | .junction logic (item :: items) => do
    let out := if nested then out ++ "(" else out
    let out ← writeExpr out true item
    let out ← writeEach s!" {logic.name} " out items
    return if nested then out ++ ")" else out

/-- Writes formulas, each after a separator. -/
def writeEach (separator out : String) : List Formula → StateM Renderer String
  | [] => return out
  | item :: items => do
    let out ← writeExpr (out ++ separator) true item
    writeEach separator out items

end

/-- The text of a formula, and the values that are bound in it. -/
def render (r : Renderer) (f : Formula) : String × List Scalar :=
  let (out, r) := (writeExpr "" false f).run r
  (out, r.params)

end Renderer

/-! ## Predicates -/

/-- A predicate: a formula written in a dialect. -/
structure Predicate where
  dialect : Dialect
  formula : Formula

namespace Predicate

/-- The statement with placeholders. -/
def sql (p : Predicate) : String :=
  ((Renderer.bound p.dialect).render p.formula).1

/-- The values of the placeholders. -/
def params (p : Predicate) : List Scalar :=
  ((Renderer.bound p.dialect).render p.formula).2

/-- The predicate with its values in place, for display. -/
def inline (p : Predicate) : String :=
  ((Renderer.inlining p.dialect).render p.formula).1

/-- The statement that selects the customers of a segment. -/
def select (p : Predicate) : String :=
  s!"SELECT c.* FROM customers c WHERE {p.sql}"

end Predicate

end Audience
