import Audience.Formula.OfStored
import Audience.Proofs.Sql.Parser

set_option autoImplicit false

/-! # What a statement says

`Formula.stated` is the expression that the statement of a formula is to be read as. It is the formula
itself but for what a statement does not show: values are the numbers of their placeholders, counted from
the left; a junction of nothing always holds, and one of a single item is that item; joins are in order,
each of them once; and a window is its start in the dialect. -/

namespace Audience

open Sql (Expr Extent WindowStart)

/-! ## Formulas and their parts -/

/-- Induction on formulas: what holds of a formula as soon as it holds of the formulas in it holds of
every formula. -/
theorem Formula.forall_of_items {p : Formula → Prop} (always : p .always)
    (compare : ∀ column op value, p (.compare column op value))
    (between : ∀ column low high, p (.between column low high))
    (like : ∀ negated column pattern, p (.like negated column pattern))
    (isNull : ∀ negated column, p (.isNull negated column))
    (existence : ∀ negated scope filters, (∀ f ∈ filters, p f) → p (.exists negated scope filters))
    (eventDate : ∀ extreme scope filters window, (∀ f ∈ filters, p f) →
      p (.eventDate extreme scope filters window))
    (junction : ∀ logic items, (∀ f ∈ items, p f) → p (.junction logic items)) (f : Formula) : p f :=
  @Formula.rec p (fun fs => ∀ f ∈ fs, p f) always compare between like isNull existence eventDate
    junction (by simp) (fun f fs hf hfs => by simpa using ⟨hf, hfs⟩) f

mutual

/-- The columns of a formula. -/
def Formula.columns : Formula → List ColumnRef
  | .always => []
  | .compare column _ _ => [column]
  | .between column _ _ => [column]
  | .like _ column _ => [column]
  | .isNull _ column => [column]
  | .exists _ _ filters => columnsOf filters
  | .eventDate _ _ filters _ => columnsOf filters
  | .junction _ items => columnsOf items

/-- The columns of some formulas. -/
def columnsOf : List Formula → List ColumnRef
  | [] => []
  | f :: fs => f.columns ++ columnsOf fs

end

/-- Every column of a formula is in the catalog. -/
def Formula.OverCatalog (f : Formula) : Prop :=
  ∀ column ∈ f.columns, column ∈ Catalog.columns.map Column.ref

theorem mem_columnsOf {fs : List Formula} {f : Formula} (hf : f ∈ fs) {column : ColumnRef}
    (h : column ∈ f.columns) : column ∈ columnsOf fs := by
  induction fs with
  | nil => simp at hf
  | cons g fs ih =>
      rw [columnsOf, List.mem_append]
      rcases List.mem_cons.1 hf with rfl | hf
      · exact Or.inl h
      · exact Or.inr (ih hf)

/-- The members of a list are over the catalog if the list is. -/
theorem Formula.OverCatalog.of_mem {fs : List Formula}
    (h : ∀ column ∈ columnsOf fs, column ∈ Catalog.columns.map Column.ref) {f : Formula}
    (hf : f ∈ fs) : f.OverCatalog :=
  fun column hcolumn => h column (mem_columnsOf hf hcolumn)

/-! ## Placeholders -/

/-- How many placeholders the window and the least count of a subquery have. -/
def Scope.slots (s : Scope) : Nat :=
  s.window.toList.length + s.minCount.toList.length

mutual

/-- How many placeholders a formula has. -/
def Formula.slots : Formula → Nat
  | .always => 0
  | .compare _ _ _ => 1
  | .between _ _ _ => 2
  | .like _ _ _ => 1
  | .isNull _ _ => 0
  | .exists _ scope filters => slotsOf filters + scope.slots
  | .eventDate _ scope filters _ => slotsOf filters + scope.slots + 1
  | .junction _ items => slotsOf items

/-- How many placeholders some formulas have. -/
def slotsOf : List Formula → Nat
  | [] => 0
  | f :: fs => f.slots + slotsOf fs

end

/-- What is bound to a placeholder: a value of the formula, or how far a window is counted back. -/
inductive Binding where
  | value (v : Scalar)
  | amount (w : Window)
  deriving DecidableEq

/-- What is bound in a dialect. Dialects differ in how they count back. -/
def Binding.scalar (d : Dialect) : Binding → Scalar
  | .value v => v
  | .amount w =>
    match d with
    | .postgres => .int w.length
    | .sqlite => .text w.modifier

/-- What is bound for the window and the least count of a subquery. -/
def Scope.bindings (s : Scope) : List Binding :=
  s.window.toList.map .amount ++ s.minCount.toList.map fun n => .value (.int n)

mutual

/-- What is bound to the placeholders of a formula, from left to right. -/
def Formula.bindings : Formula → List Binding
  | .always => []
  | .compare _ _ value => [.value value]
  | .between _ low high => [.value low, .value high]
  | .like _ _ pattern => [.value (.text pattern)]
  | .isNull _ _ => []
  | .exists _ scope filters => bindingsOf filters ++ scope.bindings
  | .eventDate _ scope filters window => bindingsOf filters ++ scope.bindings ++ [.amount window]
  | .junction _ items => bindingsOf items

/-- What is bound to the placeholders of some formulas. -/
def bindingsOf : List Formula → List Binding
  | [] => []
  | f :: fs => f.bindings ++ bindingsOf fs

end

theorem Scope.length_bindings (s : Scope) : s.bindings.length = s.slots := by
  rw [bindings, slots, List.length_append, List.length_map, List.length_map]

theorem length_bindingsOf {fs : List Formula} (h : ∀ f ∈ fs, f.bindings.length = f.slots) :
    (bindingsOf fs).length = slotsOf fs := by
  induction fs with
  | nil => rfl
  | cons f fs ih =>
      rw [bindingsOf, slotsOf, List.length_append, h f List.mem_cons_self,
        ih fun g hg => h g (List.mem_cons_of_mem _ hg)]

/-- Something is bound to each placeholder. -/
theorem Formula.length_bindings (f : Formula) : f.bindings.length = f.slots := by
  induction f using Formula.forall_of_items with
  | always => rfl
  | compare column op value => rfl
  | between column low high => rfl
  | like negated column pattern => rfl
  | isNull negated column => rfl
  | existence negated scope filters ih =>
      rw [bindings, slots, List.length_append, length_bindingsOf ih, scope.length_bindings]
  | eventDate extreme scope filters window ih =>
      rw [bindings, slots, List.length_append, List.length_append, length_bindingsOf ih,
        scope.length_bindings, List.length_singleton]
  | junction logic items ih => rw [bindings, slots, length_bindingsOf ih]

/-! ## The expression of a formula -/

/-- The start of a window in a dialect, with the placeholder of a given number. -/
def Window.stated (d : Dialect) (n : Nat) (w : Window) : WindowStart :=
  match d with
  | .postgres => .interval w.unit n
  | .sqlite => .modifier n

/-- What a subquery looks at, after `n` placeholders. -/
def Scope.stated (d : Dialect) (n : Nat) (s : Scope) : Extent where
  joins := Sql.joinable.filter s.joins.contains
  window := s.window.map (Window.stated d (n + 1))
  minCount := s.minCount.map fun _ => n + s.window.toList.length + 1

mutual

/-- The expression of a formula after `n` placeholders. -/
def Formula.stated (d : Dialect) (n : Nat) : Formula → Expr
  | .always => .always
  | .compare column op _ => .compare column op (n + 1)
  | .between column _ _ => .between column (n + 1) (n + 2)
  | .like negated column _ => .like negated column (n + 1)
  | .isNull negated column => .isNull negated column
  | .exists negated scope filters =>
    .exists negated (scope.stated d (n + slotsOf filters)) (statedAll d n filters)
  | .eventDate extreme scope filters window =>
    .eventDate extreme (scope.stated d (n + slotsOf filters)) (statedAll d n filters)
      (window.stated d (n + slotsOf filters + scope.slots + 1))
  | .junction _ [] => .always
  | .junction logic (item :: items) =>
    Sql.joined logic (item.stated d n :: statedAll d (n + item.slots) items)

/-- The expressions of some formulas in order. -/
def statedAll (d : Dialect) (n : Nat) : List Formula → List Expr
  | [] => []
  | f :: fs => f.stated d n :: statedAll d (n + f.slots) fs

end

/-! ## Parentheses -/

mutual

/-- How many levels of parentheses there are in the statement of a formula, and around it if it stands
within something else. -/
def Formula.depth : Formula → Nat
  | .exists _ _ filters => depthOf filters + 1
  | .eventDate _ _ filters _ => depthOf filters + 1
  | .junction _ [item] => item.depth
  | .junction _ (item :: items) => max item.depth (depthOf items) + 1
  | _ => 0

/-- How many levels of parentheses there are in the statements of some formulas. -/
def depthOf : List Formula → Nat
  | [] => 0
  | f :: fs => max f.depth (depthOf fs)

end

theorem depth_le_depthOf {fs : List Formula} {f : Formula} (hf : f ∈ fs) : f.depth ≤ depthOf fs := by
  induction fs with
  | nil => simp at hf
  | cons g fs ih =>
      rw [depthOf]
      rcases List.mem_cons.1 hf with rfl | hf
      · exact Nat.le_max_left ..
      · exact Nat.le_trans (ih hf) (Nat.le_max_right ..)

end Audience
