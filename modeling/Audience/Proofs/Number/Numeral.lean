import Audience.Proofs.Number.Overflow

set_option autoImplicit false

/-! # Integers in texts

A text that writes an integer in digits gives that integer wherever a number is needed, if it fits 64 bits. A
larger one is read again as a floating-point number, which is a whole number or infinity. Infinity is no integer,
but a whole number is brought into 64 bits, so the text gives the last integer on its side instead
(`Scalar.int64?_text`). -/

namespace Audience.Number

/-- The sign in front of digits. -/
inductive Numeral.Sign where
  | none
  | plus
  | minus

/-- The characters of a sign. -/
def Numeral.Sign.chars : Sign → List Char
  | .none => []
  | .plus => ['+']
  | .minus => ['-']

/-- Whether a sign makes a number negative. -/
def Numeral.Sign.isMinus : Sign → Bool
  | .minus => true
  | _ => false

/-- The parts of a text that writes an integer: digits after an optional sign, and blanks around them. -/
structure Numeral where
  before : List Char
  sign : Numeral.Sign
  digits : List Char
  after : List Char
  before_isBlank : ∀ c ∈ before, Text.isBlank c = true
  digits_ne_nil : digits ≠ []
  digits_isDigit : ∀ c ∈ digits, c.isDigit = true
  after_isBlank : ∀ c ∈ after, Text.isBlank c = true

namespace Numeral

/-- The characters between the blanks. -/
def body (x : Numeral) : List Char :=
  x.sign.chars ++ x.digits

/-- The whole text. -/
def text (x : Numeral) : String :=
  .ofList (x.before ++ x.body ++ x.after)

/-- The number that the digits stand for. -/
def size (x : Numeral) : Nat :=
  Nat.ofDigitChars 10 x.digits 0

/-- The integer that the text writes. -/
def value (x : Numeral) : Int :=
  if x.sign.isMinus then -x.size else x.size

/-- The integer that the text writes, if it fits 64 bits. -/
def fitting? (x : Numeral) : Option Int64 :=
  int64? x.value

/-- Too large for 64 bits, but not so large that it is rounded to infinity. -/
def Saturates (x : Numeral) : Prop :=
  x.fitting? = none ∧ x.size < infiniteFrom

theorem trim_text (x : Numeral) : Text.trim x.text.toList = x.body := by
  rw [text, String.toList_ofList]
  refine Text.trim_between x.before_isBlank (List.append_ne_nil_of_right_ne_nil _ x.digits_ne_nil)
    (fun c hc => ?_) x.after_isBlank
  rcases List.mem_append.1 hc with hsign | hdigit
  · cases hs : x.sign <;> rw [hs] at hsign
    · exact absurd hsign List.not_mem_nil
    · rw [List.mem_singleton.1 hsign]
      decide
    · rw [List.mem_singleton.1 hsign]
      decide
  · exact Text.isBlank_of_isDigit (x.digits_isDigit c hdigit)

theorem readInt?_body (x : Numeral) : readInt? x.body = some x.value := by
  have hread := readNat?_digits x.digits_ne_nil x.digits_isDigit
  unfold body value
  cases x.sign with
  | none => exact readInt?_digits x.digits_ne_nil x.digits_isDigit
  | plus => simp [Sign.chars, Sign.isMinus, readInt?, hread, size]
  | minus => simp [Sign.chars, Sign.isMinus, readInt?, hread, size]

/-- Digits are read as the nearest floating-point number, with their sign. -/
theorem readFloat?_body (x : Numeral) :
    readFloat? x.body
      = some (if x.sign.isMinus then -nearestFloat x.size 0 else nearestFloat x.size 0) := by
  have hread := readUnsigned?_digits x.digits_ne_nil x.digits_isDigit
  have hsigned := readFloat?_signed hread fun c hc => .inl (x.digits_isDigit c hc)
  unfold body
  cases x.sign with
  | none => exact hsigned false
  | plus => simp [Sign.chars, Sign.isMinus, readFloat?, hread, size]
  | minus => exact hsigned true

/-! ## 64 bits -/

theorem fitting?_eq_some {x : Numeral} {n : Int64} (h : x.fitting? = some n) :
    x.size < infiniteFrom ∧ n = Int64.ofIntClamp x.value := by
  have hlarge : 2 ^ 63 < infiniteFrom := by decide +kernel
  rw [fitting?, int64?] at h
  split at h
  · next hfits =>
    have hmin := Int64.toInt_minValue
    have hmax := Int64.toInt_maxValue
    have hsize : x.size ≤ 2 ^ 63 := by
      unfold value at hfits
      split at hfits <;> omega
    refine ⟨hsize.trans_lt hlarge, ?_⟩
    rw [← Option.some.inj h, Int64.ofIntClamp, dif_pos hfits.1, dif_pos hfits.2]
    rfl
  · simp at h

/-- What does not fit is large, and brought into 64 bits it is the last integer on its side. -/
theorem fitting?_eq_none {x : Numeral} (h : x.fitting? = none) :
    2 ^ 63 ≤ x.size ∧
      Int64.ofIntClamp x.value = if x.sign.isMinus then Int64.minValue else Int64.maxValue := by
  rw [fitting?, int64?] at h
  split at h
  · simp at h
  · next hfits =>
    have hmin := Int64.toInt_minValue
    have hmax := Int64.toInt_maxValue
    unfold value at hfits ⊢
    split at hfits
    · next hminus =>
      rw [if_pos hminus, if_pos hminus, ofIntClamp_of_le (by omega)]
      exact ⟨by omega, rfl⟩
    · next hplus =>
      rw [if_neg hplus, if_neg hplus, ofIntClamp_of_lt (by omega)]
      exact ⟨by omega, rfl⟩

/-- A text that writes an integer gives it brought into 64 bits, or nothing if it is rounded to infinity. -/
theorem int64?_text (x : Numeral) :
    (Scalar.text x.text).int64?
      = if x.size < infiniteFrom then some (Int64.ofIntClamp x.value) else none := by
  have hread : (Scalar.text x.text).int64? = x.fitting?.or (Scalar.wholeInt64?
      (if x.sign.isMinus then -nearestFloat x.size 0 else nearestFloat x.size 0)) := by
    rw [Scalar.int64?, trim_text, readInt64?, readInt?_body, readFloat?_body, fitting?, Option.bind_some,
      Option.bind_some]
  rw [hread]
  cases h : x.fitting? with
  | some n =>
      obtain ⟨hsmall, rfl⟩ := fitting?_eq_some h
      rw [if_pos hsmall, Option.some_or]
  | none =>
      obtain ⟨hlarge, hclamp⟩ := fitting?_eq_none h
      rw [Option.none_or, wholeInt64?_nearestFloat hlarge, hclamp]

/-- The integer that is given is the one that is written, or none, unless the text saturates. -/
theorem int64?_text_eq_fitting?_iff (x : Numeral) :
    (Scalar.text x.text).int64? = x.fitting? ↔ ¬ x.Saturates := by
  rw [int64?_text]
  unfold Saturates
  cases h : x.fitting? with
  | some n =>
      obtain ⟨hsmall, rfl⟩ := fitting?_eq_some h
      simp [hsmall]
  | none => simp

/-- A text that saturates gives the last integer on its side. -/
theorem Saturates.int64?_text {x : Numeral} (h : x.Saturates) :
    (Scalar.text x.text).int64? = some (if x.sign.isMinus then Int64.minValue else Int64.maxValue) := by
  rw [Numeral.int64?_text, if_pos h.2, (fitting?_eq_none h.1).2]

end Numeral

end Audience.Number
