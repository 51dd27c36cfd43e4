import Audience.Proofs.Sql.Reading

set_option autoImplicit false

/-! # Reading subqueries

The lexemes by which a subquery is written, and that they are read as what they were written for. The
condition of a subquery is read as one expression, whose conjuncts are then told apart: the first one
ties the transactions to the customer, a last one may bound their dates, and the others are filters
(`subquery_eq`). -/

namespace Audience.Sql

/-! ## Lexemes -/

/-- The lexemes of a column. -/
def columnLexemes (column : ColumnRef) : List Lexeme :=
  [.name column.table, .dot, .name column.name]

/-- The lexemes of the start of a window. -/
def startLexemes : WindowStart → List Lexeme
  | .interval unit n => [.key .now, .opening, .closing, .minus, .key .makeInterval, .opening,
    .name (Term.code unit), .arrow, .slot n, .closing]
  | .modifier n => [.key .date, .opening, .quoted ['n', 'o', 'w'], .comma, .slot n, .closing]

/-- The lexemes of the clause that joins a table. -/
def joinLexemes (j : Join) : List Lexeme :=
  let (table, short, column, other) := joinSource j
  [.key .join, .name table, .name short, .key .on] ++ columnLexemes column
    ++ .comparison .equal :: columnLexemes other

/-- The lexemes of the condition that a transaction is one of the customer. -/
def customerLexemes : List Lexeme :=
  columnLexemes ⟨"t", "customer_id"⟩ ++ .comparison .equal :: columnLexemes ⟨"c", "customer_id"⟩

/-- The lexemes that open a subquery. -/
def openingLexemes (joins : List Join) : List Lexeme :=
  [.key .from, .name "transactions", .name "t"]
    ++ (joins.flatMap joinLexemes ++ .key .where :: customerLexemes)

/-- The lexemes of the bound on the dates of transactions. -/
def windowLexemes : Option WindowStart → List Lexeme
  | none => []
  | some start =>
    .key .and :: (columnLexemes transactionDate ++ .comparison .greaterOrEqual :: startLexemes start)

/-- The lexemes of the least number of transactions. -/
def countLexemes : Option Nat → List Lexeme
  | none => []
  | some n => [.key .group, .key .by] ++ columnLexemes ⟨"t", "customer_id"⟩
    ++ [.key .having, .key .count, .opening, .star, .closing, .comparison .greaterOrEqual, .slot n]

/-! ## Parts -/

theorem windowStart_eq (start : WindowStart) : Reads windowStart (startLexemes start) start := by
  intro rest
  cases start with
  | interval unit n => cases unit <;> rfl
  | modifier n => rfl

theorem join_eq (j : Join) : Reads join (joinLexemes j) j := by
  intro rest
  cases j <;> rfl

/-- Joins are read up to where the condition begins. -/
theorem many_join (js : List Join) (rest : List Lexeme) {most : Nat} (hmost : js.length ≤ most) :
    many join most (js.flatMap joinLexemes ++ .key .where :: rest) = (js, .key .where :: rest) := by
  induction js generalizing most with
  | nil => cases most <;> rfl
  | cons j js ih =>
      obtain ⟨most, rfl⟩ : ∃ m, most = m + 1 := ⟨most - 1, by simp at hmost; omega⟩
      have hrest := ih (Nat.le_of_succ_le_succ hmost)
      rw [List.flatMap_cons, List.append_assoc, many, join_eq j]
      simp only [hrest]

theorem length_le_flatMap_joinLexemes (js : List Join) :
    js.length ≤ (js.flatMap joinLexemes).length := by
  induction js with
  | nil => simp
  | cons j js ih =>
      have hj : 1 ≤ (joinLexemes j).length := by cases j <;> decide
      rw [List.flatMap_cons, List.length_append, List.length_cons]
      omega

theorem having_eq (minCount : Option Nat) (rest : List Lexeme) :
    having (countLexemes minCount ++ .closing :: rest) = (minCount, .closing :: rest) := by
  cases minCount <;> rfl

theorem ends_countLexemes (minCount : Option Nat) (rest : List Lexeme) :
    Ends (countLexemes minCount ++ .closing :: rest) := by
  cases minCount <;> simp [Ends, countLexemes, separator]

/-- The condition that ties the transactions to the customer. -/
def ofCustomer : Expr :=
  .matching ⟨"t", "customer_id"⟩ ⟨"c", "customer_id"⟩

theorem primary_customerLexemes (depth : Nat) :
    Reads (primary (expr depth)) customerLexemes ofCustomer :=
  fun _ => rfl

theorem primary_since (depth : Nat) (start : WindowStart) :
    Reads (primary (expr depth))
      (columnLexemes transactionDate ++ .comparison .greaterOrEqual :: startLexemes start)
      (.since transactionDate start) := by
  intro rest
  cases start with
  | interval unit n => cases unit <;> rfl
  | modifier n => rfl

/-- The bound on the dates of transactions is one more conjunct. -/
theorem separated_windowLexemes (depth : Nat) (window : Option WindowStart) :
    Separated (fun _ => True) (separator .and) (primary (expr depth)) (windowLexemes window)
      (window.toList.map (.since transactionDate)) := by
  cases window with
  | none => exact .nil
  | some start => exact .single (primary_since depth start)

/-! ## Conjuncts -/

/-- Whether an expression is a bound on dates. -/
def Expr.isSince : Expr → Bool
  | .since _ _ => true
  | _ => false

/-- A bound on the dates of transactions is told from the filters before it. -/
theorem splitWindow_append {es : List Expr} (hes : ∀ e ∈ es, e.isSince = false)
    (window : Option WindowStart) :
    splitWindow (es ++ window.toList.map (.since transactionDate)) = (es, window) := by
  induction es with
  | nil => cases window <;> rfl
  | cons e es ih =>
      have hrest := ih fun x hx => hes x (List.mem_cons_of_mem _ hx)
      have he := hes e List.mem_cons_self
      rw [List.cons_append, splitWindow, hrest]
      · -- The first one is no bound, so it is not the last one that is looked at.
        rintro column start rfl
        simp [Expr.isSince] at he

theorem conjuncts_joined {e : Expr} (he : conjuncts e = [e]) (es : List Expr) :
    conjuncts (joined .and (e :: es)) = e :: es := by
  cases es with
  | nil => exact he
  | cons x es => rfl

/-- **A subquery is read with its joins, filters, window and least count.** -/
theorem subquery_eq {depth : Nat} {extent : Extent} {us : List Lexeme} {es : List Expr}
    (h : Separated (fun _ => True) (separator .and) (primary (expr depth)) us es)
    (hes : ∀ e ∈ es, e.isSince = false) (rest : List Lexeme) :
    subquery (expr (depth + 1))
        (openingLexemes extent.joins ++ (us ++ (windowLexemes extent.window
          ++ (countLexemes extent.minCount ++ .closing :: rest))))
      = some ((extent, es), rest) := by
  -- The condition, from the tie to the customer to the bound on dates.
  have hcondition : expr (depth + 1) (customerLexemes ++ (us ++ (windowLexemes extent.window
      ++ (countLexemes extent.minCount ++ .closing :: rest))))
      = some (joined .and (ofCustomer :: (es ++ extent.window.toList.map (.since transactionDate))),
          countLexemes extent.minCount ++ .closing :: rest) := by
    have hseparated := h.append (separated_windowLexemes depth extent.window)
    rw [← List.append_assoc us]
    exact expr_junction .and (primary_customerLexemes depth) hseparated (ends_countLexemes _ rest)
  have hjoins : ∀ ts, many join (extent.joins.flatMap joinLexemes ++ .key .where :: ts).length
      (extent.joins.flatMap joinLexemes ++ .key .where :: ts) = (extent.joins, .key .where :: ts) := by
    intro ts
    refine many_join extent.joins ts ?_
    rw [List.length_append]
    exact Nat.le_trans (length_le_flatMap_joinLexemes extent.joins) (Nat.le_add_right ..)
  rw [subquery, openingLexemes, List.append_assoc, after?_append, List.append_assoc, List.cons_append]
  simp only [Option.bind_eq_bind, Option.bind_some, hjoins, after?_singleton, hcondition,
    having_eq]
  rw [conjuncts_joined rfl]
  simp only [splitWindow_append hes]
  rfl

end Audience.Sql
