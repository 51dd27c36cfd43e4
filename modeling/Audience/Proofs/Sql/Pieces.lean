import Audience.Formula.Render

set_option autoImplicit false

/-! # Lines of pieces

A formula as one line of pieces: text, and slots for values and for the starts of windows. A dialect says
how a window is counted back, which leaves texts and values alone. A line of tokens gives a statement,
where values are numbered placeholders, and a text for people, where they are literals; a renderer writes
the one or the other (`Renderer.writes_writeExpr`). -/

namespace Audience

/-! ## Layout -/

/-- A piece of a line. -/
inductive Piece where
  | text (s : String)
  | value (v : Scalar)
  | windowStart (w : Window)
  deriving DecidableEq

/-- The joins of a subquery as they are written: each at most once, product lines first. -/
def joinClauses (joins : List Join) : String :=
  (if joins.contains .productLines then Join.productLines.clause else "")
    ++ if joins.contains .stores then Join.stores.clause else ""

/-- Where a subquery starts. -/
def Scope.opening (s : Scope) : List Piece :=
  [.text (" FROM transactions t" ++ joinClauses s.joins ++ " WHERE t.customer_id = c.customer_id")]

/-- Where a subquery ends: its window and its least count. -/
def Scope.closing (s : Scope) : List Piece :=
  (match s.window with
    | some w => [.text " AND t.transaction_date >= ", .windowStart w]
    | none => [])
  ++ match s.minCount with
    | some n => [.text " GROUP BY t.customer_id HAVING COUNT(*) >= ", .value (.int n)]
    | none => []

mutual

/-- The pieces of a formula. A junction of several items is put in parentheses when it stands within
something else; of one item only the item is written, and of none what always holds. -/
def Formula.layout (nested : Bool) : Formula → List Piece
  | .always => [.text "TRUE"]
  | .compare column op value => [.text s!"{column.text} {op.symbol} ", .value value]
  | .between column low high =>
    [.text s!"{column.text} BETWEEN ", .value low, .text " AND ", .value high]
  | .like negated column pattern =>
    [.text s!"{column.text} {notIf negated}LIKE ", .value (.text pattern),
      .text " ESCAPE '\\'"]
  | .isNull negated column => [.text s!"{column.text} IS {notIf negated}NULL"]
  | .exists negated scope filters =>
    .text (notIf negated ++ "EXISTS (SELECT 1") :: scope.opening ++ layoutFilters filters
      ++ scope.closing ++ [.text ")"]
  | .eventDate extreme scope filters window =>
    .text s!"(SELECT {extreme.function}(t.transaction_date)" :: scope.opening
      ++ layoutFilters filters ++ scope.closing ++ [.text ") >= ", .windowStart window]
  | .junction _ [] => [.text "TRUE"]
  | .junction _ [item] => item.layout nested
  | .junction logic (item :: items) =>
    (if nested then [.text "("] else []) ++ item.layout true ++ layoutItems logic items
      ++ if nested then [.text ")"] else []

/-- The filters of a subquery, each after an AND. -/
def layoutFilters : List Formula → List Piece
  | [] => []
  | filter :: filters => .text " AND " :: filter.layout true ++ layoutFilters filters

/-- The items of a junction after the first. -/
def layoutItems (logic : Logic) : List Formula → List Piece
  | [] => []
  | item :: items => .text s!" {logic.name} " :: item.layout true ++ layoutItems logic items

end

/-! ## Dialects -/

/-- A piece of a line in one dialect. -/
inductive Token where
  | text (s : String)
  | value (v : Scalar)
  deriving DecidableEq

/-- The start of a window in a dialect. -/
def Window.start (d : Dialect) (w : Window) : List Token :=
  match d with
  | .postgres => [.text s!"NOW() - make_interval({Term.code w.unit} => ", .value (.int w.length),
      .text ")"]
  | .sqlite => [.text "date('now', ", .value (.text w.modifier), .text ")"]

/-- A piece in a dialect. -/
def Piece.tokens (d : Dialect) : Piece → List Token
  | .text s => [.text s]
  | .value v => [.value v]
  | .windowStart w => w.start d

/-- The tokens of a formula in a dialect. Their statement is the text of a predicate, and their values are
the parameters (`Predicate.sql_eq_statement`, `Predicate.params_eq_parameters`). -/
def Formula.tokens (d : Dialect) (f : Formula) : List Token :=
  (f.layout false).flatMap (Piece.tokens d)

/-! ## Texts -/

/-- The statement that tokens make after `n` placeholders. -/
def statement (d : Dialect) (n : Nat) : List Token → String
  | [] => ""
  | .text s :: rest => s ++ statement d n rest
  | .value _ :: rest => d.placeholder (n + 1) ++ statement d (n + 1) rest

/-- The values that are bound to the placeholders, in order. -/
def parameters (tokens : List Token) : List Scalar :=
  tokens.filterMap fun
    | .value v => some v
    | .text _ => none

/-- The text for people, with values as literals. -/
def inlineText : List Token → String
  | [] => ""
  | .text s :: rest => s ++ inlineText rest
  | .value v :: rest => v.literal ++ inlineText rest

end Audience
