import Audience.Proofs.Sql.Parser

set_option autoImplicit false

/-! # What readers read

A reader that reads some lexemes leaves what follows them alone, if what follows may follow (`ReadsTo`).
Of items that are read, `chain` reads as many as there are separators between, and so does `level`; and
since an OR is never taken for an AND, an expression of either kind is read as the junction that it is
(`expr_junction`). -/

namespace Audience.Sql

variable {α : Type}

/-- A reader reads some lexemes as a value, whenever what follows them may follow. -/
def ReadsTo (may : List Lexeme → Prop) (p : Reader α) (ts : List Lexeme) (x : α) : Prop :=
  ∀ rest, may rest → p (ts ++ rest) = some (x, rest)

/-- A reader reads some lexemes as a value, whatever follows them. -/
def Reads (p : Reader α) (ts : List Lexeme) (x : α) : Prop :=
  ∀ rest, p (ts ++ rest) = some (x, rest)

theorem Reads.readsTo {p : Reader α} {ts : List Lexeme} {x : α} (h : Reads p ts x)
    (may : List Lexeme → Prop) : ReadsTo may p ts x :=
  fun rest _ => h rest

@[simp] theorem after?_append (expected ts : List Lexeme) :
    after? expected (expected ++ ts) = some ts := by
  simp [after?]

@[simp] theorem after?_singleton (t : Lexeme) (ts : List Lexeme) : after? [t] (t :: ts) = some ts :=
  after?_append [t] ts

/-! ## Chains -/

/-- Further items, each behind a separator. -/
inductive Separated (may : List Lexeme → Prop) (separator : Lexeme) (item : Reader α) :
    List Lexeme → List α → Prop where
  | nil : Separated may separator item [] []
  | cons {ts us : List Lexeme} {x : α} {xs : List α} (hx : ReadsTo may item ts x)
      (h : Separated may separator item us xs) :
      Separated may separator item (separator :: (ts ++ us)) (x :: xs)

namespace Separated

variable {may : List Lexeme → Prop} {separator : Lexeme} {item : Reader α} {us vs : List Lexeme}
  {xs ys : List α}

theorem single {ts : List Lexeme} {x : α} (hx : Reads item ts x) :
    Separated may separator item (separator :: ts) [x] := by
  have h : Separated may separator item (separator :: (ts ++ [])) [x] :=
    .cons (hx.readsTo may) .nil
  rwa [List.append_nil] at h

theorem append (h : Separated may separator item us xs) (h' : Separated may separator item vs ys) :
    Separated may separator item (us ++ vs) (xs ++ ys) := by
  induction h with
  | nil => exact h'
  | cons hx _ ih =>
      rw [List.cons_append, List.append_assoc]
      exact .cons hx ih

/-- Every item takes up a separator. -/
theorem length_le (h : Separated may separator item us xs) : xs.length ≤ us.length := by
  induction h with
  | nil => simp
  | cons _ _ ih =>
      simp only [List.length_cons, List.length_append]
      omega

end Separated

/-- A chain reads all of its items, and stops where no separator follows. -/
theorem chain_eq {may : List Lexeme → Prop} {separator : Lexeme} {item : Reader α}
    (hseparator : ∀ ts, may (separator :: ts)) {ts us : List Lexeme} {x : α} {xs : List α}
    (hx : ReadsTo may item ts x) (h : Separated may separator item us xs) {rest : List Lexeme}
    (hmay : may rest) (hrest : rest.head? ≠ some separator) {most : Nat} (hmost : xs.length < most) :
    chain separator item most (ts ++ (us ++ rest)) = some (x :: xs, rest) := by
  induction h generalizing ts x most with
  | nil =>
      obtain ⟨most, rfl⟩ : ∃ m, most = m + 1 := ⟨most - 1, by omega⟩
      rw [List.nil_append, chain, hx rest hmay]
      cases rest with
      | nil => rfl
      | cons t rest =>
          have hne : t ≠ separator := by simpa using hrest
          simp [hne]
  | cons hy h ih =>
      obtain ⟨most, rfl⟩ : ∃ m, most = m + 1 := ⟨most - 1, by omega⟩
      rw [List.length_cons] at hmost
      rw [chain, List.cons_append, hx _ (hseparator _)]
      simp [ih hy (Nat.lt_of_succ_lt_succ hmost)]

/-- A junction of one operator is read with all of its items. -/
theorem level_eq {may : List Lexeme → Prop} {logic : Logic} {item : Reader Expr}
    (hseparator : ∀ ts, may (separator logic :: ts)) {ts us : List Lexeme} {e : Expr}
    {es : List Expr} (hx : ReadsTo may item ts e) (h : Separated may (separator logic) item us es)
    (rest : List Lexeme) (hmay : may rest) (hrest : rest.head? ≠ some (separator logic)) :
    level logic item (ts ++ (us ++ rest)) = some (joined logic (e :: es), rest) := by
  have hmost : es.length < (ts ++ (us ++ rest)).length + 1 := by
    have hle := h.length_le
    simp only [List.length_append]
    omega
  rw [level, chain_eq hseparator hx h hmay hrest hmost]
  rfl

/-! ## Precedence -/

/-- What may follow an expression: neither operator. -/
def Ends (rest : List Lexeme) : Prop :=
  rest.head? ≠ some (separator .and) ∧ rest.head? ≠ some (separator .or)

theorem ends_nil : Ends [] := by
  simp [Ends]

theorem ends_closing (ts : List Lexeme) : Ends (.closing :: ts) := by
  simp [Ends, separator]

/-- What may follow the items of an OR: no AND. -/
def NoAnd (rest : List Lexeme) : Prop :=
  rest.head? ≠ some (separator .and)

theorem noAnd_or (ts : List Lexeme) : NoAnd (separator .or :: ts) := by
  simp [NoAnd, separator]

/-- Items of an OR are ANDs of a single item. -/
theorem Separated.of_or {item : Reader Expr} {us : List Lexeme} {es : List Expr}
    (h : Separated (fun _ => True) (separator .or) item us es) :
    Separated NoAnd (separator .or) (level .and item) us es := by
  induction h with
  | nil => exact .nil
  | cons hx _ ih =>
      refine .cons (fun rest hrest => ?_) ih
      exact level_eq (fun _ => trivial) hx .nil rest trivial hrest

/-- An expression is read as a junction of its items, whichever operator is between them. -/
theorem expr_junction {depth : Nat} (logic : Logic) {ts us : List Lexeme} {e : Expr} {es : List Expr}
    (hx : Reads (primary (expr depth)) ts e)
    (h : Separated (fun _ => True) (separator logic) (primary (expr depth)) us es)
    {rest : List Lexeme} (hrest : Ends rest) :
    expr (depth + 1) (ts ++ (us ++ rest)) = some (joined logic (e :: es), rest) := by
  have hx' : ReadsTo (fun _ => True) (primary (expr depth)) ts e := hx.readsTo _
  cases logic with
  | and =>
      -- The OR has one item, which is the whole AND.
      have hand : ReadsTo NoAnd (level .and (primary (expr depth))) (ts ++ us)
          (joined .and (e :: es)) := by
        intro rest hrest
        rw [List.append_assoc]
        exact level_eq (fun _ => trivial) hx' h rest trivial hrest
      rw [← List.append_assoc]
      exact level_eq noAnd_or hand .nil rest hrest.1 hrest.2
  | or =>
      -- Every item of the OR is an AND of one item.
      have hitem : ReadsTo NoAnd (level .and (primary (expr depth))) ts e := by
        intro rest hrest
        exact level_eq (fun _ => trivial) hx' .nil rest trivial hrest
      exact level_eq noAnd_or hitem h.of_or rest hrest.1 hrest.2

/-- What stands on its own is an expression. -/
theorem expr_single {depth : Nat} {ts : List Lexeme} {e : Expr}
    (hx : Reads (primary (expr depth)) ts e) {rest : List Lexeme} (hrest : Ends rest) :
    expr (depth + 1) (ts ++ rest) = some (e, rest) :=
  expr_junction .and hx .nil hrest

/-- What is in parentheses is read on its own. -/
theorem primary_group {depth : Nat} {ts : List Lexeme} {e : Expr}
    (h : ∀ rest, Ends rest → expr depth (ts ++ rest) = some (e, rest)) :
    Reads (primary (expr depth)) (.opening :: (ts ++ [.closing])) e := by
  intro rest
  have hgroup : group (expr depth) (ts ++ .closing :: rest) = some (e, rest) := by
    simp [group, h _ (ends_closing rest)]
  simp [primary, hgroup]

end Audience.Sql
