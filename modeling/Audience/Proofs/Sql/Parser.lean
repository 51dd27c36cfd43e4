import Audience.Proofs.Sql.Lexeme

set_option autoImplicit false

/-! # Reading statements

A reader for the boolean expressions of SQL over customers and their transactions. It goes by the usual
precedence: OR is made of ANDs (`level`), AND of what stands on its own (`primary`), which is what is in
parentheses, EXISTS with or without a NOT, a bound on a date of the transactions, and the comparison of a
column, where the AND of a BETWEEN is part of it. The condition of a subquery is an expression like any
other; only when it was read as a whole its conjuncts are told apart. Parentheses are read by the reader
of one level less, so a reader is given how many levels there may be. -/

namespace Audience.Sql

/-! ## Expressions -/

/-- The start of a window in either dialect: so many units before now, or now with a modifier. The number
is that of a placeholder. -/
inductive WindowStart where
  | interval (unit : TimeUnit) (n : Nat)
  | modifier (n : Nat)
  deriving DecidableEq

/-- What a subquery looks at besides its filters. -/
structure Extent where
  joins : List Join
  window : Option WindowStart
  minCount : Option Nat
  deriving DecidableEq

/-- An expression, with the numbers of placeholders for values. Two columns are compared, and dates with
the start of a window, in the conditions of subqueries. -/
inductive Expr where
  | always
  | compare (column : ColumnRef) (op : Comparison) (n : Nat)
  | between (column : ColumnRef) (low high : Nat)
  | like (negated : Bool) (column : ColumnRef) (n : Nat)
  | isNull (negated : Bool) (column : ColumnRef)
  | matching (column other : ColumnRef)
  | since (column : ColumnRef) (start : WindowStart)
  | exists (negated : Bool) (scope : Extent) (filters : List Expr)
  | eventDate (extreme : Extreme) (scope : Extent) (filters : List Expr) (window : WindowStart)
  | junction (logic : Logic) (items : List Expr)

/-- A junction; of one item only the item. -/
def joined (logic : Logic) : List Expr → Expr
  | [item] => item
  | items => .junction logic items

/-! ## Readers -/

/-- A reader takes what it reads off the front of a text. -/
abbrev Reader (α : Type) := List Lexeme → Option (α × List Lexeme)

/-- Take given lexemes off the front of a text. -/
def after? (expected ts : List Lexeme) : Option (List Lexeme) :=
  if expected.isPrefixOf ts then some (ts.drop expected.length) else none

/-- Items with a separator between neighbours, at most so many. -/
def chain {α : Type} (separator : Lexeme) (item : Reader α) : Nat → Reader (List α)
  | 0, _ => none
  | most + 1, ts => do
    let (x, ts) ← item ts
    match ts with
    | [] => return ([x], [])
    | t :: rest =>
      if t = separator then do
        let (xs, ts) ← chain separator item most rest
        return (x :: xs, ts)
      else return ([x], t :: rest)

/-- The word that joins the items of a junction. -/
def separator : Logic → Lexeme
  | .and => .key .and
  | .or => .key .or

/-- The junctions of one operator over items that bind tighter. -/
def level (logic : Logic) (item : Reader Expr) : Reader Expr := fun ts => do
  let (items, ts) ← chain (separator logic) item (ts.length + 1) ts
  return (joined logic items, ts)

/-- Whatever many items there are in front of a text, at most so many. -/
def many {α : Type} (item : Reader α) : Nat → List Lexeme → List α × List Lexeme
  | 0, ts => ([], ts)
  | most + 1, ts =>
    match item ts with
    | some (x, rest) => (x :: (many item most rest).1, (many item most rest).2)
    | none => ([], ts)

/-- The start of a window. -/
def windowStart : Reader WindowStart
  | .key .now :: .opening :: .closing :: .minus :: .key .makeInterval :: .opening :: .name unit
      :: .arrow :: .slot n :: .closing :: ts =>
    ((Term.all (α := TimeUnit)).find? (Term.code · == unit)).map fun u => (.interval u n, ts)
  | .key .date :: .opening :: .quoted ['n', 'o', 'w'] :: .comma :: .slot n :: .closing :: ts =>
    some (.modifier n, ts)
  | _ => none

/-- What is said about a column. -/
def predicate (column : ColumnRef) : Reader Expr
  | .comparison op :: .slot n :: ts => some (.compare column op n, ts)
  | .comparison .equal :: .name table :: .dot :: .name name :: ts =>
    some (.matching column ⟨table, name⟩, ts)
  | .comparison .greaterOrEqual :: ts =>
    (windowStart ts).map fun (start, ts) => (.since column start, ts)
  | .key .between :: .slot low :: .key .and :: .slot high :: ts =>
    some (.between column low high, ts)
  | .key .like :: .slot n :: .key .escape :: .quoted ['\\'] :: ts => some (.like false column n, ts)
  | .key .not :: .key .like :: .slot n :: .key .escape :: .quoted ['\\'] :: ts =>
    some (.like true column n, ts)
  | .key .is :: .key .null :: ts => some (.isNull false column, ts)
  | .key .is :: .key .not :: .key .null :: ts => some (.isNull true column, ts)
  | _ => none

/-! ## Subqueries -/

/-- The date of a transaction. -/
def transactionDate : ColumnRef :=
  ⟨"t", "transaction_date"⟩

/-- Whether an expression says that a transaction is one of the customer. -/
def isOfCustomer : Expr → Bool
  | .matching column other => column = ⟨"t", "customer_id"⟩ && other = ⟨"c", "customer_id"⟩
  | _ => false

/-- The tables that may be joined. -/
def joinable : List Join :=
  [.productLines, .stores]

/-- A table that is joined, the name that it is given, and the columns that match. -/
def joinSource : Join → String × String × ColumnRef × ColumnRef
  | .productLines => ("product_lines", "p", ⟨"p", "product_line_id"⟩, ⟨"t", "product_line_id"⟩)
  | .stores => ("stores", "s", ⟨"s", "store_id"⟩, ⟨"t", "store_id"⟩)

/-- A join. -/
def join : Reader Join
  | .key .join :: .name table :: .name short :: .key .on :: .name table₁ :: .dot :: .name name₁
      :: .comparison .equal :: .name table₂ :: .dot :: .name name₂ :: ts =>
    (joinable.find? fun j =>
      joinSource j == (table, short, ⟨table₁, name₁⟩, ⟨table₂, name₂⟩)).map (·, ts)
  | _ => none

/-- The least number of transactions, if there is one. -/
def having : List Lexeme → Option Nat × List Lexeme
  | .key .group :: .key .by :: .name "t" :: .dot :: .name "customer_id" :: .key .having
      :: .key .count :: .opening :: .star :: .closing :: .comparison .greaterOrEqual :: .slot n :: ts =>
    (some n, ts)
  | ts => (none, ts)

/-- The conjuncts of an expression. -/
def conjuncts : Expr → List Expr
  | .junction .and items => items
  | e => [e]

/-- The last of some conjuncts, if it bounds the date of a transaction, and those before it. -/
def splitWindow : List Expr → List Expr × Option WindowStart
  | [] => ([], none)
  | [.since column start] =>
    if column = transactionDate then ([], some start) else ([.since column start], none)
  | e :: es => (e :: (splitWindow es).1, (splitWindow es).2)

/-- What a subquery looks at, from the tables to the closing parenthesis. -/
def subquery (inner : Reader Expr) : Reader (Extent × List Expr) := fun ts => do
  let ts ← after? [.key .from, .name "transactions", .name "t"] ts
  let (joins, ts) := many join ts.length ts
  let ts ← after? [.key .where] ts
  let (condition, ts) ← inner ts
  let (minCount, ts) := having ts
  let ts ← after? [.closing] ts
  match conjuncts condition with
  | [] => none
  | e :: es =>
    if isOfCustomer e then
      let (filters, window) := splitWindow es
      return ((⟨joins, window, minCount⟩, filters), ts)
    else none

/-- The function that takes the first or the last date. -/
def extreme : Reader Extreme
  | .key .min :: ts => some (.first, ts)
  | .key .max :: ts => some (.last, ts)
  | _ => none

/-- Whether there are transactions, after the word for it. -/
def existence (inner : Reader Expr) (negated : Bool) : Reader Expr := fun ts => do
  let ts ← after? [.opening, .key .select, .number 1] ts
  let ((scope, filters), ts) ← subquery inner ts
  return (.exists negated scope filters, ts)

/-- A bound on the first or the last date of transactions, after the opening parenthesis. -/
def dateBound (inner : Reader Expr) : Reader Expr := fun ts => do
  let ts ← after? [.key .select] ts
  let (which, ts) ← extreme ts
  let ts ← after? [.opening, .name "t", .dot, .name "transaction_date", .closing] ts
  let ((scope, filters), ts) ← subquery inner ts
  let ts ← after? [.comparison .greaterOrEqual] ts
  let (start, ts) ← windowStart ts
  return (.eventDate which scope filters start, ts)

/-- What is in parentheses, after the first one. -/
def group (inner : Reader Expr) : Reader Expr := fun ts => do
  let (e, ts) ← inner ts
  let ts ← after? [.closing] ts
  return (e, ts)

/-! ## The reader -/

/-- What stands on its own. -/
def primary (inner : Reader Expr) : Reader Expr
  | .key .true :: ts => some (.always, ts)
  | .key .exists :: ts => existence inner false ts
  | .key .not :: .key .exists :: ts => existence inner true ts
  | .opening :: ts => (group inner ts).or (dateBound inner ts)
  | .name table :: .dot :: .name name :: ts => predicate ⟨table, name⟩ ts
  | _ => none

/-- An expression with so many levels of parentheses at most. -/
def expr : Nat → Reader Expr
  | 0, _ => none
  | depth + 1, ts => level .or (level .and (primary (expr depth))) ts

/-- The expression that a text writes. Every level of parentheses takes up lexemes, so there are no more
levels than those. -/
def read? (s : String) : Option Expr :=
  match expr ((lex s).length + 1) (lex s) with
  | some (e, []) => some e
  | _ => none

end Audience.Sql
