import Audience.Proofs.Sql.Pieces
import Audience.Proofs.Sql.Stated

set_option autoImplicit false

/-! # The lexemes of a statement

The lexemes of a statement are those of its texts, with the slot of its number for every value
(`Clean.lex_statement`). Texts are not lexemes: a text may end within a word, and then what follows it has to finish
the word. So of every line of pieces two things are kept: taken apart after something finished, and with
something behind it that finishes it, it gives its own lexemes (`Clean`); and of those that follow
something, that they finish it (`Finishing`). -/

namespace Audience.Sql

/-! ## Texts -/

/-- A text that ends between lexemes. -/
def Whole (s : String) : Prop :=
  (Pending.idle.run s.toList).2 = .idle

/-- A text that leaves no quotation open. -/
def Closed (s : String) : Prop :=
  (Pending.idle.run s.toList).2.isQuoted = false

/-- A text that finishes what is in front of it, whatever follows. -/
def StartsApart (s : String) : Prop :=
  s.toList.head?.any (fun c => c == ' ' || c == ')') = true

instance (s : String) : Decidable (Whole s) :=
  inferInstanceAs (Decidable (_ = _))

instance (s : String) : Decidable (Closed s) :=
  inferInstanceAs (Decidable (_ = _))

instance (s : String) : Decidable (StartsApart s) :=
  inferInstanceAs (Decidable (_ = _))

theorem StartsApart.breaks {s : String} (h : StartsApart s) (rest : List Char) :
    breaks (s.toList ++ rest) = true := by
  unfold StartsApart at h
  cases hs : s.toList with
  | nil => simp [hs] at h
  | cons c cs => simpa [hs, Sql.breaks] using h

theorem StartsApart.breaks_toList {s : String} (h : StartsApart s) : Sql.breaks s.toList = true := by
  simpa using h.breaks []

theorem StartsApart.append {s : String} (h : StartsApart s) (t : String) : StartsApart (s ++ t) := by
  unfold StartsApart at *
  rw [String.toList_append]
  cases hs : s.toList with
  | nil => simp [hs] at h
  | cons c cs => simpa [hs] using h

/-- Two texts that are apart have the lexemes of the first, then those of the second. -/
theorem lex_append {s t : String} (hs : Closed s) (ht : StartsApart t) :
    lex (s ++ t) = lex s ++ lex t := by
  rw [lex, String.toList_append, lexFrom_append_of_breaks hs ht.breaks_toList]
  rfl

/-- Of two texts that are apart the second says how both end. -/
theorem StartsApart.run_append {s t : String} (hs : Closed s) (ht : StartsApart t) :
    (Pending.idle.run (s ++ t).toList).2 = (Pending.idle.run t.toList).2 := by
  have hbreaks := ht.breaks_toList
  rw [String.toList_append, Pending.run_append]
  cases htext : t.toList with
  | nil => simp [StartsApart, htext] at ht
  | cons c cs =>
      rw [htext] at hbreaks
      rw [Pending.run_of_breaks hs hbreaks]

theorem Whole.append {s t : String} (hs : Closed s) (hapart : StartsApart t) (ht : Whole t) :
    Whole (s ++ t) := by
  rw [Whole, hapart.run_append hs]
  exact ht

theorem Closed.append {s t : String} (hs : Closed s) (hapart : StartsApart t) (ht : Closed t) :
    Closed (s ++ t) := by
  rw [Closed, hapart.run_append hs]
  exact ht

/-! ## Texts of lines -/

/-- A line of which every text has a property. -/
def EachText (P : String → Prop) (line : List Token) : Prop :=
  ∀ s, .text s ∈ line → P s

namespace EachText

variable {P : String → Prop} {line line' : List Token}

theorem nil : EachText P [] :=
  fun _ h => nomatch h

theorem text {s : String} (hs : P s) (h : EachText P line) : EachText P (.text s :: line) := by
  intro t ht
  rcases List.mem_cons.1 ht with ht | ht
  · rwa [Token.text.inj ht]
  · exact h t ht

theorem value {v : Scalar} (h : EachText P line) : EachText P (.value v :: line) := by
  intro t ht
  rcases List.mem_cons.1 ht with ht | ht
  · exact nomatch ht
  · exact h t ht

theorem append (h : EachText P line) (h' : EachText P line') : EachText P (line ++ line') := by
  intro t ht
  rcases List.mem_append.1 ht with ht | ht
  · exact h t ht
  · exact h' t ht

theorem of_cons {token : Token} (h : EachText P (token :: line)) : EachText P line :=
  fun t ht => h t (List.mem_cons_of_mem _ ht)

end EachText

/-! ## Lines -/

/-- The lexemes of a line after `n` placeholders. -/
def lexemes (n : Nat) : List Token → List Lexeme
  | [] => []
  | .text s :: line => lex s ++ lexemes n line
  | .value _ :: line => .slot (n + 1) :: lexemes (n + 1) line

@[simp] theorem parameters_nil : parameters [] = [] := rfl

@[simp] theorem parameters_text (s : String) (line : List Token) :
    parameters (.text s :: line) = parameters line := rfl

@[simp] theorem parameters_value (v : Scalar) (line : List Token) :
    parameters (.value v :: line) = v :: parameters line := rfl

theorem lexemes_append (n : Nat) (line line' : List Token) :
    lexemes n (line ++ line') = lexemes n line ++ lexemes (n + (parameters line).length) line' := by
  induction line generalizing n with
  | nil => rfl
  | cons token line ih =>
      cases token with
      | text s => simp only [List.cons_append, lexemes, ih, parameters_text, List.append_assoc]
      | value v =>
          have hcount : n + 1 + (parameters line).length = n + ((parameters line).length + 1) := by
            omega
          simp only [List.cons_append, lexemes, ih, parameters_value, List.length_cons, hcount]

theorem statement_append (d : Dialect) (n : Nat) (line line' : List Token) :
    statement d n (line ++ line')
      = statement d n line ++ statement d (n + (parameters line).length) line' := by
  induction line generalizing n with
  | nil => simp [statement]
  | cons token line ih =>
      cases token with
      | text s => simp only [List.cons_append, statement, ih, parameters_text, String.append_assoc]
      | value v =>
          have hcount : n + 1 + (parameters line).length = n + ((parameters line).length + 1) := by
            omega
          simp only [List.cons_append, statement, ih, parameters_value, List.length_cons, hcount,
            String.append_assoc]

@[simp] theorem parameters_append (line line' : List Token) :
    parameters (line ++ line') = parameters line ++ parameters line' :=
  List.filterMap_append

variable {d : Dialect} {line line' : List Token}

/-- A line that finishes what is in front of it, if what follows the line would. -/
def Finishing (d : Dialect) (line : List Token) : Prop :=
  ∀ n rest, breaks rest = true → breaks ((statement d n line).toList ++ rest) = true

/-- A line that gives its own lexemes, if what follows it finishes it. -/
def Clean (d : Dialect) (line : List Token) : Prop :=
  ∀ n rest, breaks rest = true →
    lexFrom .idle ((statement d n line).toList ++ rest) = lexemes n line ++ lexFrom .idle rest

theorem Finishing.nil : Finishing d [] :=
  fun _ _ h => h

theorem Finishing.text {s : String} (h : StartsApart s) : Finishing d (.text s :: line) := by
  intro n rest _
  rw [statement, String.toList_append, List.append_assoc]
  exact h.breaks _

theorem Finishing.append (h : Finishing d line) (h' : Finishing d line') :
    Finishing d (line ++ line') := by
  intro n rest hrest
  rw [statement_append, String.toList_append, List.append_assoc]
  exact h _ _ (h' _ _ hrest)

theorem Clean.nil : Clean d [] :=
  fun _ _ _ => rfl

/-- A text that ends between lexemes may be followed by anything. -/
theorem Clean.whole {s : String} (hs : Whole s) (h : Clean d line) : Clean d (.text s :: line) := by
  intro n rest hrest
  rw [statement, String.toList_append, List.append_assoc, lexFrom_append_of_idle hs, h n rest hrest,
    lexemes, List.append_assoc]
  rfl

/-- A text that ends within a lexeme has to be finished. -/
theorem Clean.text {s : String} (hs : Closed s) (h : Clean d line) (hline : Finishing d line) :
    Clean d (.text s :: line) := by
  intro n rest hrest
  rw [statement, String.toList_append, List.append_assoc,
    lexFrom_append_of_breaks hs (hline n rest hrest), h n rest hrest, lexemes, List.append_assoc]
  rfl

/-- A placeholder has to be finished. -/
theorem Clean.value {v : Scalar} (h : Clean d line) (hline : Finishing d line) :
    Clean d (.value v :: line) := by
  intro n rest hrest
  rw [statement, String.toList_append, List.append_assoc,
    lexFrom_placeholder d _ (hline _ rest hrest), h _ rest hrest, lexemes]
  rfl

theorem Clean.append (h : Clean d line) (h' : Clean d line') (hline' : Finishing d line') :
    Clean d (line ++ line') := by
  intro n rest hrest
  rw [statement_append, String.toList_append, List.append_assoc, h n _ (hline' _ rest hrest),
    h' _ rest hrest, lexemes_append, List.append_assoc]

/-- The lexemes of a statement are those of its line. -/
theorem Clean.lex_statement (h : Clean d line) : lex (statement d 0 line) = lexemes 0 line := by
  have hline := h 0 [] rfl
  rw [List.append_nil] at hline
  rw [lex, hline]
  simp [lexFrom, Pending.run, Pending.flush]

end Audience.Sql
