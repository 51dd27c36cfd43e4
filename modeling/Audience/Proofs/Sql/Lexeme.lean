import Audience.Formula.Render
import Audience.Proofs.Number.Integer

set_option autoImplicit false

/-! # Lexemes of statements

A text of SQL is taken apart into lexemes, one character after the other; what was read of the lexeme
that is not finished yet is kept as `Pending`. Taking a text apart goes by its parts (`lexFrom_append`):
a part that ends within a lexeme is finished by what comes next, if that is a space or a closing
parenthesis (`lexFrom_of_breaks`). -/

namespace Audience.Sql

/-! ## Lexemes -/

/-- The words that are no names. -/
inductive Keyword where
  | and | or | not | true | null | is | exists | select | from | join | on | where | group | by
  | having | count | min | max | between | like | escape | now | makeInterval | date
  deriving DecidableEq

namespace Keyword

/-- Every keyword. -/
def all : List Keyword :=
  [.and, .or, .not, .true, .null, .is, .exists, .select, .from, .join, .on, .where, .group, .by,
    .having, .count, .min, .max, .between, .like, .escape, .now, .makeInterval, .date]

/-- A keyword as it is written. -/
def word : Keyword → String
  | .and => "AND"
  | .or => "OR"
  | .not => "NOT"
  | .true => "TRUE"
  | .null => "NULL"
  | .is => "IS"
  | .exists => "EXISTS"
  | .select => "SELECT"
  | .from => "FROM"
  | .join => "JOIN"
  | .on => "ON"
  | .where => "WHERE"
  | .group => "GROUP"
  | .by => "BY"
  | .having => "HAVING"
  | .count => "COUNT"
  | .min => "MIN"
  | .max => "MAX"
  | .between => "BETWEEN"
  | .like => "LIKE"
  | .escape => "ESCAPE"
  | .now => "NOW"
  | .makeInterval => "make_interval"
  | .date => "date"

end Keyword

/-- The comparisons in the order in which they are tried. -/
def comparisons : List Comparison :=
  [.equal, .notEqual, .greater, .greaterOrEqual, .less, .lessOrEqual]

/-- A lexeme. A slot is a numbered placeholder of either dialect. -/
inductive Lexeme where
  | key (k : Keyword)
  | name (s : String)
  | number (n : Nat)
  | slot (n : Nat)
  | quoted (cs : List Char)
  | comparison (op : Comparison)
  | arrow
  | opening
  | closing
  | dot
  | comma
  | star
  | minus
  | other (cs : List Char)
  deriving DecidableEq

namespace Lexeme

/-- The placeholder whose mark stands before some digits. -/
def ofSlot (mark : Char) (ds : List Char) : Lexeme :=
  match Number.readNat? ds with
  | some n => .slot n
  | none => .other (mark :: ds)

/-- The lexeme that a word is. -/
def ofWord : List Char → Lexeme
  | '$' :: ds => ofSlot '$' ds
  | '?' :: ds => ofSlot '?' ds
  | cs =>
    match Keyword.all.find? (·.word.toList == cs) with
    | some k => .key k
    | none =>
      match Number.readNat? cs with
      | some n => .number n
      | none => .name (.ofList cs)

/-- The lexeme that a run of operator characters is. -/
def ofOperator (cs : List Char) : Lexeme :=
  match comparisons.find? (·.symbol.toList == cs) with
  | some op => .comparison op
  | none => if cs = ['=', '>'] then .arrow else .other cs

/-- The lexeme that a character is on its own. -/
def ofChar : Char → Lexeme
  | '(' => .opening
  | ')' => .closing
  | '.' => .dot
  | ',' => .comma
  | '*' => .star
  | '-' => .minus
  | c => .other [c]

end Lexeme

/-! ## Taking texts apart -/

/-- Whether a character belongs to a word. -/
def isWordChar (c : Char) : Bool :=
  c.isAlphanum || c == '_' || c == '$' || c == '?'

/-- Whether a character belongs to an operator. -/
def isOperatorChar (c : Char) : Bool :=
  c == '<' || c == '>' || c == '=' || c == '!'

/-- What was read of the lexeme that is not finished yet. -/
inductive Pending where
  | idle
  | word (cs : List Char)
  | operator (cs : List Char)
  | quoted (cs : List Char)
  deriving DecidableEq

namespace Pending

/-- Begin a lexeme with a character; some lexemes are finished with it. -/
def start (c : Char) : List Lexeme × Pending :=
  if c = ' ' then ([], .idle)
  else if c = '\'' then ([], .quoted [])
  else if isWordChar c then ([], .word [c])
  else if isOperatorChar c then ([], .operator [c])
  else ([.ofChar c], .idle)

/-- Read one more character. -/
def step : Pending → Char → List Lexeme × Pending
  | .idle, c => start c
  | .word cs, c =>
    if isWordChar c then ([], .word (cs ++ [c])) else (.ofWord cs :: (start c).1, (start c).2)
  | .operator cs, c =>
    if isOperatorChar c then ([], .operator (cs ++ [c]))
    else (.ofOperator cs :: (start c).1, (start c).2)
  | .quoted cs, c => if c = '\'' then ([.quoted cs], .idle) else ([], .quoted (cs ++ [c]))

/-- Read some characters: the lexemes finished on the way, and what is left. -/
def run (p : Pending) : List Char → List Lexeme × Pending
  | [] => ([], p)
  | c :: cs =>
    match p.step c with
    | (finished, q) =>
      match q.run cs with
      | (further, last) => (finished ++ further, last)

/-- Finish the lexeme at the end of a text. A quotation has to be closed. -/
def flush : Pending → List Lexeme
  | .idle => []
  | .word cs => [.ofWord cs]
  | .operator cs => [.ofOperator cs]
  | .quoted cs => [.other cs]

/-- Whether a quotation is open. -/
def isQuoted : Pending → Bool
  | .quoted _ => true
  | _ => false

end Pending

/-- The lexemes of a text after the beginning of one. -/
def lexFrom (p : Pending) (cs : List Char) : List Lexeme :=
  (p.run cs).1 ++ (p.run cs).2.flush

/-- The lexemes of a text. -/
def lex (s : String) : List Lexeme :=
  lexFrom .idle s.toList

theorem Pending.run_cons (p : Pending) (c : Char) (cs : List Char) :
    p.run (c :: cs) = ((p.step c).1 ++ ((p.step c).2.run cs).1, ((p.step c).2.run cs).2) := rfl

theorem Pending.run_append (p : Pending) (as bs : List Char) :
    p.run (as ++ bs)
      = ((p.run as).1 ++ ((p.run as).2.run bs).1, ((p.run as).2.run bs).2) := by
  induction as generalizing p with
  | nil => simp [run]
  | cons a as ih => simp only [List.cons_append, run_cons, ih, List.append_assoc]

/-- A text is taken apart by its parts. -/
theorem lexFrom_append (p : Pending) (as bs : List Char) :
    lexFrom p (as ++ bs) = (p.run as).1 ++ lexFrom (p.run as).2 bs := by
  simp only [lexFrom, Pending.run_append, List.append_assoc]

/-- Whether a text finishes any lexeme in front of it that is no quotation: it is empty, or starts with
a space or a closing parenthesis. -/
def breaks : List Char → Bool
  | [] => true
  | c :: _ => c == ' ' || c == ')'

/-- What comes next finishes a lexeme, and is read as if nothing had been in front of it. -/
theorem Pending.run_of_breaks {p : Pending} (hp : p.isQuoted = false) {c : Char} {cs : List Char}
    (h : breaks (c :: cs) = true) :
    p.run (c :: cs) = (p.flush ++ (idle.run (c :: cs)).1, (idle.run (c :: cs)).2) := by
  have hc : c = ' ' ∨ c = ')' := by simpa [breaks] using h
  -- Neither a space nor a closing parenthesis goes on with a word or an operator.
  have hstep : p.step c = (p.flush ++ (start c).1, (start c).2) := by
    cases p with
    | idle => rfl
    | word ws => rcases hc with rfl | rfl <;> rfl
    | operator ws => rcases hc with rfl | rfl <;> rfl
    | quoted ws => simp [isQuoted] at hp
  have hidle : idle.step c = start c := rfl
  simp only [run_cons, hstep, hidle, List.append_assoc]

theorem lexFrom_of_breaks {p : Pending} (hp : p.isQuoted = false) {cs : List Char}
    (h : breaks cs = true) : lexFrom p cs = p.flush ++ lexFrom .idle cs := by
  cases cs with
  | nil => simp [lexFrom, Pending.run, Pending.flush]
  | cons c cs => simp only [lexFrom, Pending.run_of_breaks hp h, List.append_assoc]

/-- A text that ends between lexemes leaves what comes next alone. -/
theorem lexFrom_append_of_idle {as : List Char} (h : (Pending.idle.run as).2 = .idle)
    (bs : List Char) : lexFrom .idle (as ++ bs) = lexFrom .idle as ++ lexFrom .idle bs := by
  have has : lexFrom .idle as = (Pending.idle.run as).1 := by simp [lexFrom, h, Pending.flush]
  rw [lexFrom_append, h, has]

/-- A text that ends within a lexeme is finished by what comes next. -/
theorem lexFrom_append_of_breaks {as bs : List Char}
    (h : (Pending.idle.run as).2.isQuoted = false) (hbs : breaks bs = true) :
    lexFrom .idle (as ++ bs) = lexFrom .idle as ++ lexFrom .idle bs := by
  rw [lexFrom_append, lexFrom_of_breaks h hbs, ← List.append_assoc]
  rfl

/-! ## Placeholders -/

theorem Pending.run_word {ws : List Char} (h : ∀ c ∈ ws, isWordChar c = true) (cs : List Char) :
    (Pending.word cs).run ws = ([], .word (cs ++ ws)) := by
  induction ws generalizing cs with
  | nil => simp [run]
  | cons c ws ih =>
      have hc : (Pending.word cs).step c = ([], .word (cs ++ [c])) := by
        simp [step, h c List.mem_cons_self]
      simp [run_cons, hc, ih fun d hd => h d (List.mem_cons_of_mem _ hd)]

/-- A mark and digits are one word. -/
theorem run_slot {mark : Char} (hmark : mark = '$' ∨ mark = '?') (n : Nat) :
    Pending.idle.run (mark :: Nat.toDigits 10 n) = ([], .word (mark :: Nat.toDigits 10 n)) ∧
      Lexeme.ofWord (mark :: Nat.toDigits 10 n) = .slot n := by
  have hword : ∀ c ∈ Nat.toDigits 10 n, isWordChar c = true := by
    intro c hc
    have hdigit := Number.isDigit_of_mem_natText hc
    simp [isWordChar, Char.isAlphanum, hdigit]
  have hstart : Pending.idle.step mark = ([], .word [mark]) := by
    rcases hmark with rfl | rfl <;> rfl
  have hread : Number.readNat? (Nat.toDigits 10 n) = some n := Number.readNat?_natText n
  -- Neither mark is a digit, so only the digits after it are read as a number.
  refine ⟨?_, ?_⟩
  · simp [Pending.run_cons, hstart, Pending.run_word hword]
  · rcases hmark with rfl | rfl <;> simp [Lexeme.ofWord, Lexeme.ofSlot, hread]

theorem toList_placeholder (d : Dialect) (n : Nat) :
    ∃ mark, (mark = '$' ∨ mark = '?') ∧ (d.placeholder n).toList = mark :: Nat.toDigits 10 n := by
  cases d with
  | postgres =>
      refine ⟨'$', Or.inl rfl, ?_⟩
      simp only [Dialect.placeholder, String.toList_append, Nat.toString_eq_repr, Nat.toList_repr]
      rfl
  | sqlite =>
      refine ⟨'?', Or.inr rfl, ?_⟩
      simp only [Dialect.placeholder, String.toList_append, Nat.toString_eq_repr, Nat.toList_repr]
      rfl

/-- A placeholder is the slot of its number, once something finishes it. -/
theorem lexFrom_placeholder (d : Dialect) (n : Nat) {cs : List Char} (h : breaks cs = true) :
    lexFrom .idle ((d.placeholder n).toList ++ cs) = .slot n :: lexFrom .idle cs := by
  obtain ⟨mark, hmark, htext⟩ := toList_placeholder d n
  obtain ⟨hrun, hslot⟩ := run_slot hmark n
  rw [htext, lexFrom_append_of_breaks (by rw [hrun]; rfl) h, lexFrom, hrun]
  simp [Pending.flush, hslot]

end Audience.Sql
