import Audience.AgeRange
import Audience.Formula.OfStored
import Audience.Proofs.Number.Integer

set_option autoImplicit false

/-! # Dates as stored texts

The first and the last day of a year of four digits are dates for a column of dates
(`isSome_value?_birthDates`), and no integer is one (`value?_int64Text`): a date has a dash after its year, and
an integer has one in front of its digits at most. -/

namespace Audience

open Number (padded intText int64Text readNat?)

/-! ## Reading a date -/

namespace Calendar

variable {cs rest : List Char}

theorem number?_eq_some_iff {n v : Nat} :
    number? n cs = some (v, rest) ↔
      ∃ ds, cs = ds ++ rest ∧ ds.length = n ∧ Number.readNat? ds = some v := by
  constructor
  · intro h
    simp only [number?] at h
    split at h
    · next hlength =>
      obtain ⟨_, hread, hpair⟩ := Option.map_eq_some_iff.1 h
      obtain ⟨rfl, rfl⟩ := Prod.mk.inj hpair
      exact ⟨cs.take n, (List.take_append_drop n cs).symm, hlength, hread⟩
    · simp at h
  · rintro ⟨ds, rfl, rfl, hread⟩
    simp [number?, hread]

theorem number?_padded {width n : Nat} (h : (Number.natText n).length ≤ width) (rest : List Char) :
    number? width (padded width n ++ rest) = some (n, rest) := by
  have hlen := Number.length_padded h
  simp [number?, List.take_left' hlen, List.drop_left' hlen, hlen, Number.readNat?_padded]

/-- A year is read back from its four digits. -/
theorem number?_yearText {year : Nat} (h : year ≤ 9999) (rest : List Char) :
    number? 4 (yearText year ++ rest) = some (year, rest) := by
  have hdigits : (Number.natText year).length ≤ 4 :=
    (Nat.length_toDigits_le_iff (b := 10) (by decide) (by decide)).2 (by omega)
  rw [yearText, if_neg (by omega), Int.natAbs_natCast, number?_padded hdigits]

/-- A text that starts with a year of four digits is a date when a month and a day of the year come after it,
and nothing else. -/
theorem isDateText_iff {year : Nat} (hyear : number? 4 cs = some (year, rest)) :
    isDateText cs = true ↔
      ∃ month day, monthDay? rest = some (month, day, []) ∧ isDate year month day = true := by
  obtain ⟨ds, hcs, -, hread⟩ := number?_eq_some_iff.1 hyear
  obtain ⟨hne, hdigits, -⟩ := Number.readNat?_eq_some_iff.1 hread
  obtain ⟨c, ds, rfl⟩ := List.exists_cons_of_ne_nil hne
  obtain ⟨hminus, hplus⟩ := Number.ne_sign_of_isDigit (hdigits c List.mem_cons_self)
  rw [List.cons_append] at hcs
  subst hcs
  cases hmonthDay : monthDay? rest with
  | none => simp [isDateText, hminus, hplus, hyear, hmonthDay]
  | some read =>
      obtain ⟨month, day, last⟩ := read
      have htext : isDateText (c :: (ds ++ rest)) = (last.isEmpty && isDate year month day) := by
        simp [isDateText, hminus, hplus, hyear, hmonthDay]
      rw [htext, Bool.and_eq_true, List.isEmpty_iff]
      constructor
      · rintro ⟨rfl, hdate⟩
        exact ⟨month, day, rfl, hdate⟩
      · rintro ⟨_, _, hread, hdate⟩
        cases hread
        exact ⟨rfl, hdate⟩

/-- A year of four digits makes a date with a month and a day that it has. -/
theorem isDateText_yearText {year : Int} {tail : List Char} {month day : Nat} (hlow : 0 ≤ year)
    (hhigh : year ≤ 9999) (htail : monthDay? tail = some (month, day, []))
    (hdate : isDate year month day = true) : isDateText (yearText year ++ tail) = true := by
  obtain ⟨n, rfl⟩ := Int.eq_ofNat_of_zero_le hlow
  exact (isDateText_iff (number?_yearText (by omega) tail)).2 ⟨month, day, htail, hdate⟩

/-- Nothing but digits is no month and day. -/
theorem monthDay?_digits {cs : List Char} (h : ∀ c ∈ cs, c.isDigit = true) : monthDay? cs = none := by
  cases cs with
  | nil => rfl
  | cons c cs =>
      have hc : c ≠ '-' := by
        rintro rfl
        exact absurd (h '-' List.mem_cons_self) (by decide)
      simp [monthDay?, after?, hc]

/-- After a year there are only more digits. -/
theorem monthDay?_of_number? {cs rest : List Char} {v : Nat} (htail : ∀ c ∈ cs.tail, c.isDigit = true)
    (h : number? 4 cs = some (v, rest)) : monthDay? rest = none := by
  obtain ⟨ds, rfl, hlength, -⟩ := number?_eq_some_iff.1 h
  obtain ⟨d, ds, rfl⟩ := List.exists_cons_of_length_pos (by omega : 0 < ds.length)
  exact monthDay?_digits fun c hc => htail c (List.mem_append_right ds hc)

theorem isInstantText_eq_false {cs : List Char} (htail : ∀ c ∈ cs.tail, c.isDigit = true) :
    isInstantText cs = false := by
  unfold isInstantText
  cases hyear : number? 4 cs with
  | none => rfl
  | some read =>
      obtain ⟨v, rest⟩ := read
      have hrest := monthDay?_of_number? htail hyear
      simp [hrest]

theorem isDateText_eq_false {cs : List Char} (htail : ∀ c ∈ cs.tail, c.isDigit = true) :
    isDateText cs = false := by
  unfold isDateText
  split
  next negative body hsign =>
  -- What follows a sign is the rest of the text.
  have hbody : ∀ c ∈ body.tail, c.isDigit = true := by
    split at hsign
    · obtain ⟨-, rfl⟩ := Prod.mk.inj hsign
      exact fun c hc => htail c (List.mem_of_mem_tail hc)
    · obtain ⟨-, rfl⟩ := Prod.mk.inj hsign
      exact fun c hc => htail c (List.mem_of_mem_tail hc)
    · obtain ⟨-, rfl⟩ := Prod.mk.inj hsign
      exact htail
  cases hyear : number? 4 body with
  | none => rfl
  | some read =>
      obtain ⟨v, rest⟩ := read
      have hrest := monthDay?_of_number? hbody hyear
      simp [hrest]

end Calendar

/-! ## Values of columns of dates -/

theorem isDigit_of_mem_tail_intText {n : Int} {c : Char} (h : c ∈ (intText n).tail) :
    c.isDigit = true := by
  unfold intText at h
  split at h
  · exact Number.isDigit_of_mem_natText h
  · exact Number.isDigit_of_mem_natText (List.mem_of_mem_tail h)

/-- No integer is a date. -/
theorem value?_int64Text (n : Int64) : FieldType.datetime.value? (int64Text n) = none := by
  have htrim : Text.trim (int64Text n).toList = intText n.toInt := by
    rw [int64Text, String.toList_ofList]
    exact Text.trim_eq_self fun c hc => Number.isBlank_of_mem_intText hc
  have htail : ∀ c ∈ (intText n.toInt).tail, c.isDigit = true :=
    fun c hc => isDigit_of_mem_tail_intText hc
  simp [FieldType.value?, htrim, Calendar.isDateText_eq_false htail,
    Calendar.isInstantText_eq_false htail]

/-- A day of a year of four digits is a value. -/
theorem isSome_value?_yearText {year : Int} {tail : List Char} {month day : Nat} (hlow : 0 ≤ year)
    (hhigh : year ≤ 9999) (htail : Calendar.monthDay? tail = some (month, day, []))
    (hdate : Calendar.isDate year month day = true) (hblank : tail.any Text.isBlank = false) :
    (FieldType.datetime.value? (.ofList (yearText year ++ tail))).isSome = true := by
  have hyear : ∀ c ∈ yearText year, Text.isBlank c = false := by
    intro c hc
    rw [yearText, if_neg (by omega)] at hc
    exact Text.isBlank_of_isDigit (Number.isDigit_of_mem_padded hc)
  have htail' : ∀ c ∈ tail, Text.isBlank c = false := by simpa using hblank
  have htrim : Text.trim (yearText year ++ tail) = yearText year ++ tail :=
    Text.trim_eq_self (List.forall_mem_append.2 ⟨hyear, htail'⟩)
  simp [FieldType.value?, htrim, Calendar.isDateText_yearText hlow hhigh htail hdate]

/-- Two numbers have birth dates when both are ages. -/
theorem birthDates?_eq_none_iff {year : Int} {a b : Int64} :
    birthDates? year a b = none ↔ ¬ (0 ≤ min a.toInt b.toInt ∧ max a.toInt b.toInt ≤ maxAge) := by
  unfold birthDates?
  dsimp only
  split <;> simp <;> omega

theorem birthDates?_eq_some_iff {year : Int} {a b : Int64} {first last : String} :
    birthDates? year a b = some (first, last) ↔
      (0 ≤ min a.toInt b.toInt ∧ max a.toInt b.toInt ≤ maxAge) ∧
        .ofList (yearText (year - max a.toInt b.toInt) ++ "-01-01".toList) = first ∧
        .ofList (yearText (year - min a.toInt b.toInt) ++ "-12-31".toList) = last := by
  unfold birthDates?
  dsimp only
  split
  · next hages =>
    simp only [reduceCtorEq, false_iff]
    omega
  · next hages =>
    rw [Option.some.injEq, Prod.mk.injEq, ← Int.not_lt, ← Int.not_lt, ← not_or, and_iff_right hages]

/-- The birth dates of an age range are values, in any year in which everyone was born in a year of four
digits. -/
theorem isSome_value?_birthDates {year : Int} {a b : Int64} {first last : String} (hlow : maxAge ≤ year)
    (hhigh : year ≤ 9999) (h : birthDates? year a b = some (first, last)) :
    (FieldType.datetime.value? first).isSome = true ∧
      (FieldType.datetime.value? last).isSome = true := by
  obtain ⟨⟨hmin, hmax⟩, rfl, rfl⟩ := birthDates?_eq_some_iff.1 h
  have hfirst : Calendar.monthDay? "-01-01".toList = some (1, 1, []) := by decide
  have hlast : Calendar.monthDay? "-12-31".toList = some (12, 31, []) := by decide
  exact ⟨isSome_value?_yearText (by omega) (by omega) hfirst rfl (by decide),
    isSome_value?_yearText (by omega) (by omega) hlast rfl (by decide)⟩

end Audience
