import Audience.Formula.Render
import Audience.Proofs.Number.Plain
import Audience.Proofs.Sql.Lexeme

set_option autoImplicit false

/-! # Texts without placeholders

A neutral text has no mark of a placeholder and closes every quotation that it opens (`Neutral`); so do the
literals of numbers. In the literal of a text anything may stand, but it stands in quotes. A reader who is
in no quotation finds no placeholder in either, and is in no quotation afterwards (`Harmless`). -/

namespace Audience.Sql

/-! ## Neutral texts -/

/-- Whether a character is the mark of placeholders in a dialect. -/
def isMark (c : Char) : Bool :=
  c == '$' || c == '?'

/-- A text without marks of placeholders that closes every quotation it opens. -/
structure Neutral (s : String) : Prop where
  unmarked : ∀ c ∈ s.toList, isMark c = false
  quotes : s.toList.count '\'' % 2 = 0

instance (s : String) : Decidable (Neutral s) :=
  decidable_of_iff ((s.toList.all fun c => !isMark c) = true ∧ s.toList.count '\'' % 2 = 0)
    ⟨fun h => ⟨by simpa using h.1, h.2⟩, fun h => ⟨by simpa using h.1, h.2⟩⟩

theorem Neutral.append {s t : String} (hs : Neutral s) (ht : Neutral t) : Neutral (s ++ t) where
  unmarked := by
    rw [String.toList_append]
    exact List.forall_mem_append.2 ⟨hs.unmarked, ht.unmarked⟩
  quotes := by
    rw [String.toList_append, List.count_append, Nat.add_mod, hs.quotes, ht.quotes]

theorem Neutral.of_forall {s : String} (h : ∀ c ∈ s.toList, isMark c = false ∧ c ≠ '\'') :
    Neutral s where
  unmarked c hc := (h c hc).1
  quotes := by rw [List.count_eq_zero_of_not_mem fun hc => (h _ hc).2 rfl]

/-! ## Placeholders among lexemes -/

/-- The numbers of the placeholders among some lexemes, in order. -/
def slotNumbers (ts : List Lexeme) : List Nat :=
  ts.filterMap fun
    | .slot n => some n
    | _ => none

theorem slotNumbers_append (ts us : List Lexeme) : slotNumbers (ts ++ us) = slotNumbers ts ++ slotNumbers us :=
  List.filterMap_append

/-- Whether no lexeme is a placeholder. -/
def NoSlot (ts : List Lexeme) : Prop :=
  ∀ n, .slot n ∉ ts

theorem NoSlot.slotNumbers_eq {ts : List Lexeme} (h : NoSlot ts) : slotNumbers ts = [] := by
  refine List.filterMap_eq_nil_iff.2 fun t ht => ?_
  cases t with
  | slot n => exact absurd ht (h n)
  | _ => rfl

theorem NoSlot.append {ts us : List Lexeme} (hts : NoSlot ts) (hus : NoSlot us) : NoSlot (ts ++ us) :=
  fun n h => (List.mem_append.1 h).elim (hts n) (hus n)

theorem noSlot_nil : NoSlot [] :=
  fun _ h => nomatch h

/-- A word without marks is no placeholder. -/
theorem noSlot_ofWord {cs : List Char} (h : ∀ c ∈ cs, isMark c = false) :
    NoSlot [Lexeme.ofWord cs] := by
  intro n hn
  have hword := List.mem_singleton.1 hn
  unfold Lexeme.ofWord at hword
  split at hword
  · exact absurd (h '$' List.mem_cons_self) (by decide)
  · exact absurd (h '?' List.mem_cons_self) (by decide)
  · split at hword
    · exact nomatch hword
    · split at hword <;> exact nomatch hword

theorem noSlot_ofOperator (cs : List Char) : NoSlot [Lexeme.ofOperator cs] := by
  intro n hn
  have hop := List.mem_singleton.1 hn
  unfold Lexeme.ofOperator at hop
  split at hop
  · exact nomatch hop
  · split at hop <;> exact nomatch hop

theorem noSlot_ofChar (c : Char) : NoSlot [Lexeme.ofChar c] := by
  intro n hn
  have hchar := List.mem_singleton.1 hn
  unfold Lexeme.ofChar at hchar
  split at hchar <;> exact nomatch hchar

theorem noSlot_quoted (cs : List Char) : NoSlot [.quoted cs] :=
  fun _ hn => nomatch List.mem_singleton.1 hn

namespace Pending

/-- Whether no placeholder has been begun. -/
def Unmarked : Pending → Prop
  | .word cs => ∀ c ∈ cs, isMark c = false
  | _ => True

theorem Unmarked.flush {p : Pending} (h : p.Unmarked) : NoSlot p.flush := by
  cases p with
  | idle => exact noSlot_nil
  | word cs => exact noSlot_ofWord h
  | operator cs => exact noSlot_ofOperator cs
  | quoted cs =>
      exact fun n hn => nomatch List.mem_singleton.1 hn

theorem start_unmarked {c : Char} (h : isMark c = false) :
    NoSlot (start c).1 ∧ (start c).2.Unmarked := by
  unfold start
  split
  · exact ⟨noSlot_nil, trivial⟩
  split
  · exact ⟨noSlot_nil, trivial⟩
  split
  · exact ⟨noSlot_nil, fun d hd => by rwa [List.mem_singleton.1 hd]⟩
  split
  · exact ⟨noSlot_nil, trivial⟩
  · exact ⟨noSlot_ofChar c, trivial⟩

/-- Reading a character that is no mark begins no placeholder, and finishes none. -/
theorem Unmarked.step {p : Pending} (h : p.Unmarked) {c : Char} (hc : isMark c = false) :
    NoSlot (p.step c).1 ∧ (p.step c).2.Unmarked := by
  obtain ⟨hstart, hstart'⟩ := start_unmarked hc
  cases p with
  | idle => exact ⟨hstart, hstart'⟩
  | word cs =>
      simp only [Pending.step]
      split
      · refine ⟨noSlot_nil, ?_⟩
        exact List.forall_mem_append.2 ⟨h, fun d hd => by rwa [List.mem_singleton.1 hd]⟩
      · exact ⟨(noSlot_ofWord h).append hstart, hstart'⟩
  | operator cs =>
      simp only [Pending.step]
      split
      · exact ⟨noSlot_nil, trivial⟩
      · exact ⟨(noSlot_ofOperator cs).append hstart, hstart'⟩
  | quoted cs =>
      simp only [Pending.step]
      split
      · exact ⟨noSlot_quoted cs, trivial⟩
      · exact ⟨noSlot_nil, trivial⟩

theorem Unmarked.run {p : Pending} (h : p.Unmarked) {cs : List Char}
    (hcs : ∀ c ∈ cs, isMark c = false) : NoSlot (p.run cs).1 ∧ (p.run cs).2.Unmarked := by
  induction cs generalizing p with
  | nil => exact ⟨noSlot_nil, h⟩
  | cons c cs ih =>
      obtain ⟨hfinished, hstep⟩ := h.step (hcs c List.mem_cons_self)
      obtain ⟨hfurther, hrun⟩ := ih hstep fun d hd => hcs d (List.mem_cons_of_mem _ hd)
      rw [run_cons]
      exact ⟨hfinished.append hfurther, hrun⟩

/-- A quotation is opened or closed by a quote and by nothing else. -/
theorem isQuoted_step (p : Pending) (c : Char) :
    (p.step c).2.isQuoted = (p.isQuoted ^^ (c == '\'')) := by
  have hstart : (start c).2.isQuoted = (c == '\'') := by
    by_cases hquote : c = '\''
    · subst hquote
      rfl
    · have hne : (c == '\'') = false := beq_eq_false_iff_ne.2 hquote
      rw [hne]
      unfold start
      split
      · rfl
      split
      · rfl
      split <;> rfl
  cases p with
  | idle => simpa [step, isQuoted] using hstart
  | word cs =>
      simp only [step]
      split
      · next hword =>
          have hne : c ≠ '\'' := by
            rintro rfl
            exact absurd hword (by decide)
          simp [isQuoted, hne]
      · simpa [isQuoted] using hstart
  | operator cs =>
      simp only [step]
      split
      · next hop =>
          have hne : c ≠ '\'' := by
            rintro rfl
            exact absurd hop (by decide)
          simp [isQuoted, hne]
      · simpa [isQuoted] using hstart
  | quoted cs => by_cases hquote : c = '\'' <;> simp [step, isQuoted, hquote]

theorem isQuoted_run (p : Pending) (cs : List Char) :
    (p.run cs).2.isQuoted = (p.isQuoted ^^ (cs.count '\'' % 2 == 1)) := by
  induction cs generalizing p with
  | nil => simp [run]
  | cons c cs ih =>
      rw [run_cons, ih, isQuoted_step, Bool.xor_assoc, List.count_cons]
      congr 1
      by_cases hquote : c = '\''
      · rcases Nat.mod_two_eq_zero_or_one (cs.count '\'') with h | h <;> simp [hquote, h, Nat.add_mod]
      · have hne : (c == '\'') = false := beq_eq_false_iff_ne.2 hquote
        simp [hne]

/-- Whether no quotation is open, and no placeholder has been begun. -/
structure Plain (p : Pending) : Prop where
  unmarked : p.Unmarked
  unquoted : p.isQuoted = false

theorem plain_idle : idle.Plain :=
  ⟨trivial, rfl⟩

theorem eq_quoted {p : Pending} (h : p.isQuoted = true) : ∃ cs, p = .quoted cs := by
  cases p with
  | quoted cs => exact ⟨cs, rfl⟩
  | _ => exact nomatch h

/-- What stands in quotes with its own quotes written twice stays in quotes. -/
theorem run_doubled (cs : List Char) {p : Pending} (h : p.isQuoted = true) :
    NoSlot (p.run (cs.flatMap fun c => if c = '\'' then ['\'', '\''] else [c])).1 ∧
    (p.run (cs.flatMap fun c => if c = '\'' then ['\'', '\''] else [c])).2.isQuoted = true := by
  induction cs generalizing p with
  | nil => exact ⟨noSlot_nil, h⟩
  | cons c cs ih =>
      obtain ⟨ds, rfl⟩ := eq_quoted h
      by_cases hquote : c = '\''
      · -- The first of the two quotes ends a quotation, and the second one begins the next.
        have hstep : (quoted ds).run ['\'', '\''] = ([.quoted ds], quoted []) := rfl
        obtain ⟨hfurther, hlast⟩ := ih (p := quoted []) rfl
        rw [List.flatMap_cons, if_pos hquote, run_append, hstep]
        exact ⟨(noSlot_quoted ds).append hfurther, hlast⟩
      · have hstep : (quoted ds).run [c] = ([], quoted (ds ++ [c])) := by
          simp [run, step, hquote]
        obtain ⟨hfurther, hlast⟩ := ih (p := quoted (ds ++ [c])) rfl
        rw [List.flatMap_cons, if_neg hquote, run_append, hstep]
        exact ⟨noSlot_nil.append hfurther, hlast⟩

end Pending

/-! ## Harmless texts -/

/-- Whether a reader who is in no quotation finds no placeholder in a text and is in no quotation after
it. -/
def Harmless (s : String) : Prop :=
  ∀ p : Pending, p.Plain → NoSlot (p.run s.toList).1 ∧ (p.run s.toList).2.Plain

theorem Harmless.append {s t : String} (hs : Harmless s) (ht : Harmless t) : Harmless (s ++ t) := by
  intro p hp
  obtain ⟨hfinished, hplain⟩ := hs p hp
  obtain ⟨hfurther, hlast⟩ := ht _ hplain
  rw [String.toList_append, Pending.run_append]
  exact ⟨hfinished.append hfurther, hlast⟩

theorem Harmless.slotNumbers_lex {s : String} (h : Harmless s) : slotNumbers (lex s) = [] := by
  obtain ⟨hfinished, hlast⟩ := h .idle Pending.plain_idle
  exact (hfinished.append hlast.unmarked.flush).slotNumbers_eq

theorem Neutral.harmless {s : String} (h : Neutral s) : Harmless s := by
  intro p hp
  obtain ⟨hfinished, hunmarked⟩ := hp.unmarked.run h.unmarked
  refine ⟨hfinished, hunmarked, ?_⟩
  rw [Pending.isQuoted_run, hp.unquoted, h.quotes]
  rfl

/-- A text in quotes is harmless whatever it says. -/
theorem harmless_singleQuoted (s : String) : Harmless (singleQuoted s) := by
  intro p hp
  have hopen : (p.step '\'').2.isQuoted = true := by
    rw [Pending.isQuoted_step, hp.unquoted]
    rfl
  obtain ⟨hfinished, -⟩ := hp.unmarked.step (c := '\'') rfl
  obtain ⟨hinner, hquoted⟩ := Pending.run_doubled s.toList hopen
  obtain ⟨ds, hlast⟩ := Pending.eq_quoted hquoted
  have hclose : (Pending.quoted ds).run ['\''] = ([.quoted ds], .idle) := rfl
  rw [singleQuoted, String.toList_ofList, List.cons_append, Pending.run_cons, Pending.run_append, hlast,
    hclose]
  exact ⟨hfinished.append (hinner.append (noSlot_quoted ds)), Pending.plain_idle⟩

/-! ## Literals -/

theorem neutral_of_digits {s : String}
    (h : ∀ c ∈ s.toList, c = '-' ∨ c.isDigit = true ∨ c = '.') : Neutral s := by
  refine .of_forall fun c hc => ?_
  rcases h c hc with rfl | hdigit | rfl
  · decide
  · -- Neither the marks nor the quote are digits.
    have hmark : c ≠ '$' ∧ c ≠ '?' := by
      constructor <;> (rintro rfl; exact absurd hdigit (by decide))
    refine ⟨by simp [isMark, hmark], ?_⟩
    rintro rfl
    exact absurd hdigit (by decide)
  · decide

theorem neutral_int64Text (n : Int64) : Neutral (Number.int64Text n) := by
  refine neutral_of_digits fun c hc => ?_
  rw [Number.int64Text, String.toList_ofList] at hc
  exact (Number.isDigit_of_mem_intText hc).imp_right Or.inl

theorem neutral_plainText (x : Float) : Neutral (.ofList (Number.plainText x)) := by
  rcases Number.ofFloat_cases x with ⟨hfinite, -⟩ | ⟨-, h | ⟨negative, h⟩⟩
  · refine neutral_of_digits fun c hc => ?_
    rw [String.toList_ofList] at hc
    exact Number.mem_plainText hfinite hc
  · rw [Number.plainText, h]
    decide
  · rw [Number.plainText, h]
    cases negative <;> decide

theorem harmless_literal (v : Scalar) : Harmless v.literal := by
  cases v with
  | null => exact Neutral.harmless (s := "NULL") (by decide)
  | bool b => cases b <;> exact Neutral.harmless (by decide)
  | int n => exact (neutral_int64Text n).harmless
  | float x =>
      refine Neutral.harmless ?_
      rw [Scalar.literal, Scalar.display]
      split
      · exact neutral_int64Text _
      · exact neutral_plainText x
  | text s => exact harmless_singleQuoted s

end Audience.Sql
