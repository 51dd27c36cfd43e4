import Audience.Criteria.Normalize
import Audience.Proofs.Criteria.RoundTrip
import Audience.Proofs.Number.Numeral
import Audience.Proofs.Stored.Dates

set_option autoImplicit false

/-! # Integers given as texts

A count, the length of a window and the ends of an age range may be given as texts that write them in digits
(`integer_as_text_iff`). Counts and lengths are the integers that are written, or stand for nothing when these do
not fit 64 bits, exactly as long as the text does not saturate: then the last integer of 64 bits is taken for the
one that is written. The end of an age range is never mistaken, because neither of the last integers is an age. -/

namespace Audience

open Number (Numeral)

/-- The value that a text stands for when it is taken for no other integer than the one that is written. -/
def Scalar.exactly (x : Numeral) : Scalar :=
  match x.fitting? with
  | some n => .int n
  | none => .null

theorem Scalar.int64?_exactly (x : Numeral) : (Scalar.exactly x).int64? = x.fitting? := by
  unfold Scalar.exactly
  cases x.fitting? <;> rfl

namespace Criteria

/-! ## Counts and lengths -/

/-- The frequency of a value that is no object, by the count that it is. -/
def Frequency.alone (count : Option Int64) : Frequency :=
  match count with
  | some n => ⟨"at_least", n⟩
  | none => ⟨"", 1⟩

theorem Frequency.alone_injective : Function.Injective Frequency.alone := by
  intro m n h
  cases m <;> cases n <;> simp_all [Frequency.alone]

theorem Frequency.ofJson_string (s : String) :
    Frequency.ofJson (.string s) = .alone (Scalar.text s).int64? := by
  rw [Frequency.ofJson, countOf, Scalar.ofJson, Frequency.alone.eq_def]
  cases (Scalar.text s).int64? <;> rfl

/-- What has members is no count itself. -/
theorem countOf_of_member? {key : String} {value v : Json} (h : value.member? key = some v) :
    countOf value = none := by
  cases value with
  | object members => exact countOf_object members
  | _ => simp [Json.member?, Json.members?] at h

theorem countMember_text {key s : String} {value : Json} (h : value.member? key = some (.string s)) :
    countMember key value = (Scalar.text s).int64?.getD 1 := by
  rw [countMember, h]
  rfl

/-- The count one stands for a missing one, and no text that saturates is taken for it. -/
theorem getD_int64?_text_iff (x : Numeral) :
    (Scalar.text x.text).int64?.getD 1 = x.fitting?.getD 1 ↔ ¬ x.Saturates := by
  by_cases hsat : x.Saturates
  · rw [hsat.int64?_text, hsat.1]
    refine iff_of_false ?_ (not_not_intro hsat)
    cases x.sign.isMinus <;> decide
  · rw [x.int64?_text_eq_fitting?_iff.2 hsat]
    exact iff_of_true rfl hsat

/-! ## Ages -/

/-- The last integers of 64 bits are no ages. -/
theorem birthDates?_of_last (year : Int) {n : Int64} (hn : n = Int64.minValue ∨ n = Int64.maxValue)
    (age : Int64) : Audience.birthDates? year n age = none ∧ Audience.birthDates? year age n = none := by
  have hmin := Int64.toInt_minValue
  have hmax := Int64.toInt_maxValue
  have hage : maxAge = 150 := rfl
  rw [birthDates?_eq_none_iff, birthDates?_eq_none_iff]
  rcases hn with rfl | rfl <;> omega

theorem birthDates?_exactly (x : Numeral) (year : Int) (a : Attribute) :
    ({ a with value := .text x.text } : Attribute).birthDates? year
        = ({ a with value := .exactly x } : Attribute).birthDates? year ∧
      ({ a with value2 := .text x.text } : Attribute).birthDates? year
        = ({ a with value2 := .exactly x } : Attribute).birthDates? year := by
  simp only [Attribute.birthDates?, Scalar.int64?_exactly]
  by_cases hsat : x.Saturates
  · have hlast : (if x.sign.isMinus then Int64.minValue else Int64.maxValue) = Int64.minValue ∨
        (if x.sign.isMinus then Int64.minValue else Int64.maxValue) = Int64.maxValue := ite_eq_or_eq _ _ _
    rw [hsat.int64?_text, hsat.1]
    generalize (if x.sign.isMinus then Int64.minValue else Int64.maxValue) = n at hlast
    constructor
    · cases a.value2.int64? <;> simp [birthDates?_of_last year hlast]
    · cases a.value.int64? <;> simp [birthDates?_of_last year hlast]
  · rw [x.int64?_text_eq_fitting?_iff.2 hsat]
    exact ⟨rfl, rfl⟩

/-! ## Integers as texts -/

/-- **An integer that is given as a text is used as it is written, or counts as missing, unless the text
saturates.** For digits of any length, after any sign and between any blanks, the text as an integer, as a
frequency, as the count of a frequency and as the length of a period are what the written integer makes of them, or
its absence when it does not fit 64 bits, exactly if the text does not saturate. The end of an age range always
is. -/
theorem integer_as_text_iff (x : Numeral) :
    ((Scalar.text x.text).int64? = x.fitting? ↔ ¬ x.Saturates) ∧
    (Frequency.ofJson (.string x.text) = .alone x.fitting? ↔ ¬ x.Saturates) ∧
    (∀ value : Json, value.member? "value" = some (.string x.text) →
      ((Frequency.ofJson value).count = x.fitting?.getD 1 ↔ ¬ x.Saturates) ∧
      ((Period.ofJson value).length = x.fitting?.getD 1 ↔ ¬ x.Saturates)) ∧
    (∀ (year : Int) (a : Attribute),
      ({ a with value := .text x.text } : Attribute).birthDates? year
          = ({ a with value := .exactly x } : Attribute).birthDates? year ∧
        ({ a with value2 := .text x.text } : Attribute).birthDates? year
          = ({ a with value2 := .exactly x } : Attribute).birthDates? year) := by
  refine ⟨x.int64?_text_eq_fitting?_iff, ?_, ?_, birthDates?_exactly x⟩
  · rw [Frequency.ofJson_string, Frequency.alone_injective.eq_iff, x.int64?_text_eq_fitting?_iff]
  · intro value hmember
    rw [Frequency.ofJson, countOf_of_member? hmember, Period.ofJson, countMember_text hmember]
    exact ⟨getD_int64?_text_iff x, getD_int64?_text_iff x⟩

/-- The least integer that is too large for 64 bits, between blanks. -/
def leastTooLarge : Numeral where
  before := [' ']
  sign := .plus
  digits := "9223372036854775808".toList
  after := ['\n']
  before_isBlank := List.all_eq_true.1 (by decide)
  digits_ne_nil := by decide
  digits_isDigit := List.all_eq_true.1 (by decide)
  after_isBlank := List.all_eq_true.1 (by decide)

/-- It makes a count that is neither the integer that is written nor the one that stands for none. -/
theorem integer_as_text_iff_leastTooLarge :
    (Json.object [("value", .string leastTooLarge.text)]).member? "value" = some (.string leastTooLarge.text) ∧
      leastTooLarge.Saturates ∧
      (Frequency.ofJson (.object [("value", .string leastTooLarge.text)])).count
        ≠ leastTooLarge.fitting?.getD 1 := by
  have hmember : (Json.object [("value", .string leastTooLarge.text)]).member? "value"
      = some (.string leastTooLarge.text) := rfl
  have hsat : leastTooLarge.Saturates := ⟨by decide +kernel, by decide +kernel⟩
  obtain ⟨-, -, hcount, -⟩ := integer_as_text_iff leastTooLarge
  exact ⟨hmember, hsat, fun heq => (hcount _ hmember).1.1 heq hsat⟩

/-- No integer of 64 bits is written, but the last of them is read. -/
theorem int64?_text_ne_leastTooLarge :
    (Scalar.text "9223372036854775808").int64? = some Int64.maxValue ∧
      Number.int64? 9223372036854775808 = none ∧
      (Frequency.ofJson (.string "9223372036854775808")).count = Int64.maxValue := by
  decide +kernel

end Criteria

end Audience
