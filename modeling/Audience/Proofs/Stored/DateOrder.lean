import Audience.Proofs.Stored.Dates
import Mathlib.Data.String.Basic

set_option autoImplicit false

/-! # Dates in the order of their texts

Numbers written with equally many digits have the order of their texts (`append_le_append_iff`), so texts that
start with such numbers are compared by the numbers first (`Calendar.number?_le_iff`). Dates with years of four
digits are ordered as days are: by year, month and day (`Calendar.date_le_iff`). -/

namespace Audience

/-- Texts are compared by their first characters first. -/
theorem Text.cons_le_cons_iff {c d : Char} {u v : List Char} :
    c :: u ≤ d :: v ↔ c < d ∨ c = d ∧ u ≤ v := by
  rw [← not_lt, List.cons_lt_cons_iff, not_or, not_and, not_lt, not_lt]
  constructor
  · rintro ⟨hle, htail⟩
    rcases hle.lt_or_eq with hlt | rfl
    · exact Or.inl hlt
    · exact Or.inr ⟨rfl, htail rfl⟩
  · rintro (hlt | ⟨rfl, htail⟩)
    · exact ⟨hlt.le, fun heq => absurd heq hlt.ne'⟩
    · exact ⟨le_rfl, fun _ => htail⟩

/-! ## Digits -/

namespace Number

/-- While digits are read, the numbers read so far are compared before the rest of the texts. -/
theorem ofDigitChars_lex_iff {ds es : List Char} (hlength : ds.length = es.length)
    (hds : ∀ c ∈ ds, c.isDigit = true) (hes : ∀ c ∈ es, c.isDigit = true) (u v : List Char) (m n : Nat) :
    (Nat.ofDigitChars 10 ds m < Nat.ofDigitChars 10 es n ∨
        Nat.ofDigitChars 10 ds m = Nat.ofDigitChars 10 es n ∧ u ≤ v) ↔
      m < n ∨ m = n ∧ ds ++ u ≤ es ++ v := by
  induction ds generalizing es m n with
  | nil =>
      obtain rfl : es = [] := List.length_eq_zero_iff.1 hlength.symm
      rfl
  | cons c ds ih =>
      cases es with
      | nil => simp at hlength
      | cons d es =>
          obtain ⟨hc, hds⟩ := List.forall_mem_cons.1 hds
          obtain ⟨hd, hes⟩ := List.forall_mem_cons.1 hes
          have hc' : 48 ≤ c.toNat ∧ c.toNat ≤ 57 := Char.isDigit_iff_toNat.1 hc
          have hd' : 48 ≤ d.toNat ∧ d.toNat ≤ 57 := Char.isDigit_iff_toNat.1 hd
          have hzero : '0'.toNat = 48 := rfl
          have hlt : c < d ↔ c.toNat < d.toNat := Iff.rfl
          have heq : c = d ↔ c.toNat = d.toNat := Char.toNat_inj.symm
          rw [Nat.ofDigitChars_cons, Nat.ofDigitChars_cons, ih (Nat.succ.inj hlength) hds hes,
            List.cons_append, List.cons_append, Text.cons_le_cons_iff, hlt, heq]
          -- The next digits are less than ten, so they only count where the numbers agree so far.
          by_cases htail : ds ++ u ≤ es ++ v
          · simp only [htail, and_true]
            omega
          · simp only [htail, and_false, or_false]
            omega

/-- Texts that start with equally many digits are compared by the numbers that these stand for. -/
theorem append_le_append_iff {ds es : List Char} (hlength : ds.length = es.length)
    (hds : ∀ c ∈ ds, c.isDigit = true) (hes : ∀ c ∈ es, c.isDigit = true) (u v : List Char) :
    ds ++ u ≤ es ++ v ↔ Nat.ofDigitChars 10 ds 0 < Nat.ofDigitChars 10 es 0 ∨
      Nat.ofDigitChars 10 ds 0 = Nat.ofDigitChars 10 es 0 ∧ u ≤ v := by
  rw [ofDigitChars_lex_iff hlength hds hes]
  simp

end Number

/-! ## Texts of dates -/

namespace Calendar

variable {cs cs' rest rest' : List Char}

/-- Texts that start with equally many digits are compared by the numbers read from these. -/
theorem number?_le_iff {n v v' : Nat} (h : number? n cs = some (v, rest))
    (h' : number? n cs' = some (v', rest')) : cs ≤ cs' ↔ v < v' ∨ v = v' ∧ rest ≤ rest' := by
  obtain ⟨ds, rfl, hlength, hread⟩ := number?_eq_some_iff.1 h
  obtain ⟨es, rfl, hlength', hread'⟩ := number?_eq_some_iff.1 h'
  obtain ⟨-, hds, rfl⟩ := Number.readNat?_eq_some_iff.1 hread
  obtain ⟨-, hes, rfl⟩ := Number.readNat?_eq_some_iff.1 hread'
  exact Number.append_le_append_iff (hlength.trans hlength'.symm) hds hes rest rest'

theorem after?_eq_some_iff {c : Char} : after? c cs = some rest ↔ cs = c :: rest := by
  cases cs with
  | nil => simp [after?]
  | cons d cs => simp [after?]

theorem monthDay?_eq_some_iff {month day : Nat} :
    monthDay? cs = some (month, day, rest) ↔ ∃ monthText dayText,
      cs = '-' :: monthText ∧ number? 2 monthText = some (month, '-' :: dayText) ∧
        number? 2 dayText = some (day, rest) := by
  simp only [monthDay?, Option.bind_eq_bind, Option.bind_eq_some_iff, after?_eq_some_iff,
    Option.pure_def, Option.some.injEq, Prod.exists, Prod.mk.injEq]
  constructor
  · rintro ⟨monthText, rfl, _, _, hmonth, dayText, rfl, _, _, hday, rfl, rfl, rfl⟩
    exact ⟨monthText, dayText, rfl, hmonth, hday⟩
  · rintro ⟨monthText, dayText, rfl, hmonth, hday⟩
    exact ⟨monthText, rfl, _, _, hmonth, dayText, rfl, _, _, hday, rfl, rfl, rfl⟩

/-- Months and days are compared by the months first. -/
theorem monthDay?_le_iff {month month' day day' : Nat} (h : monthDay? cs = some (month, day, rest))
    (h' : monthDay? cs' = some (month', day', rest')) :
    cs ≤ cs' ↔ month < month' ∨ month = month' ∧ (day < day' ∨ day = day' ∧ rest ≤ rest') := by
  obtain ⟨monthText, dayText, rfl, hmonth, hday⟩ := monthDay?_eq_some_iff.1 h
  obtain ⟨monthText', dayText', rfl, hmonth', hday'⟩ := monthDay?_eq_some_iff.1 h'
  simp [Text.cons_le_cons_iff, number?_le_iff hmonth hmonth', number?_le_iff hday hday']

/-- Dates are compared by their years, then by their months, then by their days. -/
theorem date_le_iff {year year' month month' day day' : Nat} (hyear : number? 4 cs = some (year, rest))
    (hday : monthDay? rest = some (month, day, [])) (hyear' : number? 4 cs' = some (year', rest'))
    (hday' : monthDay? rest' = some (month', day', [])) :
    cs ≤ cs' ↔ year < year' ∨ year = year' ∧ (month < month' ∨ month = month' ∧ day ≤ day') := by
  rw [number?_le_iff hyear hyear', monthDay?_le_iff hday hday']
  simp only [le_refl, and_true, le_iff_lt_or_eq]

/-- Whether a text is a date of a year, the year being its first four characters. -/
def IsDateOf (year : Nat) (cs : List Char) : Prop :=
  isDateText cs = true ∧ ∃ rest, number? 4 cs = some (year, rest)

/-- There is no day outside the twelve months, and none after the thirty-first. -/
theorem isDate_bounds {year : Int} {month day : Nat} (h : isDate year month day = true) :
    1 ≤ month ∧ month ≤ 12 ∧ 1 ≤ day ∧ day ≤ 31 := by
  simp only [isDate, Bool.and_eq_true, decide_eq_true_eq] at h
  obtain ⟨hfirst, hlast⟩ := h
  unfold daysIn at hlast
  grind

end Calendar

end Audience
