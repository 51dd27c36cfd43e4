import Audience.Scalar
import Audience.Vocabulary.Window

set_option autoImplicit false

/-! # Formulas of SQL

Boolean expressions over the customers and, in subqueries, over their transactions. Values stand in
a formula as values; how they come into a text is a matter of writing it. -/

namespace Audience

/-- A column and the name that its statement gives to its table. -/
structure ColumnRef where
  table : String
  name : String
  deriving DecidableEq

/-- The comparisons. -/
inductive Comparison where
  | equal
  | notEqual
  | greater
  | greaterOrEqual
  | less
  | lessOrEqual
  deriving DecidableEq

/-- A comparison as it is written. -/
def Comparison.symbol : Comparison → String
  | .equal => "="
  | .notEqual => "!="
  | .greater => ">"
  | .greaterOrEqual => ">="
  | .less => "<"
  | .lessOrEqual => "<="

/-- The tables that a subquery may join to the transactions. -/
inductive Join where
  | productLines
  | stores
  deriving DecidableEq

/-- What a subquery over a customer's transactions looks at besides its filters: the tables joined,
the stretch of time, and the least number of transactions. -/
structure Scope where
  joins : List Join
  window : Option Window
  minCount : Option Int64
  deriving DecidableEq

/-- The first or the last date of a customer's transactions. -/
inductive Extreme where
  | first
  | last
  deriving DecidableEq

/-- A boolean expression. A pattern of `like` has its wildcards and escapes already. -/
inductive Formula where
  | always
  | compare (column : ColumnRef) (op : Comparison) (value : Scalar)
  | between (column : ColumnRef) (low high : Scalar)
  | like (negated : Bool) (column : ColumnRef) (pattern : String)
  | isNull (negated : Bool) (column : ColumnRef)
  | exists (negated : Bool) (scope : Scope) (filters : List Formula)
  | eventDate (extreme : Extreme) (scope : Scope) (filters : List Formula) (window : Window)
  | junction (logic : Logic) (items : List Formula)

instance : Inhabited Formula :=
  ⟨.always⟩

end Audience
