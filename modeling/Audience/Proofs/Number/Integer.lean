import Audience.Number.Integer
import Audience.Proofs.Text.Words

set_option autoImplicit false

/-! # Whole numbers read back

The decimal text of an integer is read as that integer (`readInt64?_int64Text`), and zeros in front change
nothing (`readNat?_padded`). No character of it is blank. -/

namespace Audience.Number

/-! ## Natural numbers -/

theorem isDigit_of_mem_natText {n : Nat} {c : Char} (h : c ∈ natText n) : c.isDigit = true :=
  Nat.isDigit_of_mem_toDigits (by decide) (by decide) h

theorem natText_ne_nil (n : Nat) : natText n ≠ [] :=
  Nat.toDigits_ne_nil

/-- The digits of a number begin with a zero only if there are no others. -/
theorem eq_nil_of_natText_eq_zero_cons {n : Nat} {ds : List Char} (h : natText n = '0' :: ds) :
    ds = [] := by
  induction n using Nat.strongRecOn generalizing ds with
  | ind n ih =>
      by_cases hn : n < 10
      · rw [natText, Nat.toDigits_of_lt_base hn] at h
        exact (List.cons.inj h).2.symm
      · rw [natText, Nat.toDigits_of_base_le (by decide) (Nat.le_of_not_lt hn)] at h
        obtain ⟨ds', hds'⟩ : ∃ ds', natText (n / 10) = '0' :: ds' := by
          cases hfront : natText (n / 10) with
          | nil => exact absurd hfront (natText_ne_nil _)
          | cons c ds' =>
              rw [natText] at hfront
              rw [hfront, List.cons_append] at h
              exact ⟨ds', by rw [(List.cons.inj h).1]⟩
        -- the digits in front would be a zero alone, so there would be nothing in front
        have hzero : natText (n / 10) = ['0'] := by
          rw [hds', ih (n / 10) (by omega) hds']
        have hvalue : n / 10 = 0 := by
          have hdigits : Nat.ofDigitChars 10 (natText (n / 10)) 0 = n / 10 :=
            Nat.ofDigitChars_ten_toDigits
          rw [← hdigits, hzero]
          rfl
        omega

theorem readNat?_digits {ds : List Char} (hne : ds ≠ []) (h : ∀ c ∈ ds, c.isDigit = true) :
    readNat? ds = some (Nat.ofDigitChars 10 ds 0) := by
  have hempty : ds.isEmpty = false := by simpa using hne
  have hall : ds.all Char.isDigit = true := List.all_eq_true.2 h
  simp [readNat?, hempty, hall]

theorem readNat?_eq_some_iff {ds : List Char} {n : Nat} :
    readNat? ds = some n ↔
      ds ≠ [] ∧ (∀ c ∈ ds, c.isDigit = true) ∧ Nat.ofDigitChars 10 ds 0 = n := by
  simp only [readNat?]
  split
  · next hnot =>
    simp only [Bool.or_eq_true, List.isEmpty_iff, Bool.not_eq_true', List.all_eq_false] at hnot
    grind
  · next hdigits =>
    simp only [Bool.or_eq_true, List.isEmpty_iff, Bool.not_eq_true', List.all_eq_false] at hdigits
    grind

theorem readNat?_natText (n : Nat) : readNat? (natText n) = some n := by
  have hvalue : Nat.ofDigitChars 10 (natText n) 0 = n := Nat.ofDigitChars_ten_toDigits
  rw [readNat?_digits (natText_ne_nil n) fun c hc => isDigit_of_mem_natText hc, hvalue]

theorem isDigit_of_mem_padded {width n : Nat} {c : Char} (h : c ∈ padded width n) :
    c.isDigit = true := by
  rcases List.mem_append.1 h with h | h
  · rw [List.eq_of_mem_replicate h]
    rfl
  · exact isDigit_of_mem_natText h

theorem length_padded {width n : Nat} (h : (natText n).length ≤ width) :
    (padded width n).length = width := by
  simp only [padded, List.length_append, List.length_replicate]
  omega

/-- Zeros in front do not change what is read. -/
theorem readNat?_padded (width n : Nat) : readNat? (padded width n) = some n := by
  have hne : padded width n ≠ [] := List.append_ne_nil_of_right_ne_nil _ (natText_ne_nil n)
  have hvalue : Nat.ofDigitChars 10 (padded width n) 0 = n := by
    have hdigits : Nat.ofDigitChars 10 (natText n) 0 = n := Nat.ofDigitChars_ten_toDigits
    rw [padded, Nat.ofDigitChars_append, Nat.ofDigitChars_replicate_zero, Nat.mul_zero, hdigits]
  rw [readNat?_digits hne fun c hc => isDigit_of_mem_padded hc, hvalue]

/-! ## Integers -/

theorem ne_sign_of_isDigit {c : Char} (h : c.isDigit = true) : c ≠ '-' ∧ c ≠ '+' := by
  constructor <;> (rintro rfl; revert h; decide)

/-- Digits without a sign are read as they are. -/
theorem readInt?_digits {ds : List Char} (hne : ds ≠ []) (h : ∀ c ∈ ds, c.isDigit = true) :
    readInt? ds = some (Nat.ofDigitChars 10 ds 0 : Int) := by
  have hread := readNat?_digits hne h
  obtain ⟨c, cs, rfl⟩ := List.exists_cons_of_ne_nil hne
  obtain ⟨hminus, hplus⟩ := ne_sign_of_isDigit (h c List.mem_cons_self)
  simp [readInt?, hminus, hplus, hread]

theorem readInt?_natText (n : Nat) : readInt? (natText n) = some (n : Int) := by
  have hvalue : Nat.ofDigitChars 10 (natText n) 0 = n := Nat.ofDigitChars_ten_toDigits
  rw [readInt?_digits (natText_ne_nil n) fun c hc => isDigit_of_mem_natText hc, hvalue]

theorem readInt?_intText (n : Int) : readInt? (intText n) = some n := by
  by_cases hn : n < 0
  · have habs : -(n.natAbs : Int) = n := by omega
    rw [intText, if_pos hn, readInt?, readNat?_natText]
    exact congrArg some habs
  · have habs : (n.natAbs : Int) = n := by omega
    rw [intText, if_neg hn, readInt?_natText, habs]

theorem isDigit_of_mem_intText {n : Int} {c : Char} (h : c ∈ intText n) :
    c = '-' ∨ c.isDigit = true := by
  unfold intText at h
  split at h
  · rcases List.mem_cons.mp h with rfl | hc
    · exact Or.inl rfl
    · exact Or.inr (isDigit_of_mem_natText hc)
  · exact Or.inr (isDigit_of_mem_natText h)

theorem isBlank_of_mem_intText {n : Int} {c : Char} (h : c ∈ intText n) :
    Text.isBlank c = false := by
  rcases isDigit_of_mem_intText h with rfl | hc
  · decide
  · exact Text.isBlank_of_isDigit hc

/-! ## 64 bits -/

theorem int64?_toInt (n : Int64) : int64? n.toInt = some n := by
  rw [int64?, if_pos ⟨n.minValue_le_toInt, n.toInt_le⟩, Int64.ofInt_toInt]

theorem readInt64?_int64Text (n : Int64) : readInt64? (int64Text n).toList = some n := by
  simp [readInt64?, int64Text, readInt?_intText, int64?_toInt]

end Audience.Number
