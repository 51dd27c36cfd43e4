import Mathlib.Algebra.Order.Ring.Cast
import Mathlib.Data.Prod.Lex
import Mathlib.Order.Monotone.Basic

set_option autoImplicit false

/-! # The order of floating-point numbers

Floating-point numbers are ordered by their places, each of which is made of three integers: the first tells
infinities, signs and zero apart, the others are exponent and mantissa (`compare_eq`). Places are in a linear
order, and so are floating-point numbers (`le_iff`, `lt_iff`), but for the one that is not a number: it is not
even as great as itself. -/

namespace Audience.Number

open Float.Model (UnpackedFloat)
open Float.Model.UnpackedFloat (Sign)

/-! ## Places -/

/-- Where an unpacked number stands among the others. -/
def place : UnpackedFloat → ℤ ×ₗ ℤ ×ₗ ℤ
  | .infinity .negative => toLex (-2, toLex (0, 0))
  | .finite .negative m e _ => toLex (-1, toLex (-e, -m))
  | .zero _ => toLex (0, toLex (0, 0))
  | .finite .positive m e _ => toLex (1, toLex (e, m))
  | .infinity .positive => toLex (2, toLex (0, 0))
  | .notANumber => toLex (0, toLex (0, 0))

theorem compare_toLex (a b c a' b' c' : ℤ) :
    compare (toLex (a, toLex (b, c))) (toLex (a', toLex (b', c')))
      = (compare a a').then ((compare b b').then (compare c c')) := by
  simp [Prod.Lex.compare_def, compareLex, compareOn]

theorem compare_neg (a b : ℤ) : compare (-a) (-b) = (compare a b).swap := by
  have hanti : StrictAnti (fun a : ℤ => -a) := fun a b h => Int.neg_lt_neg h
  rw [← cmp_eq_compare, hanti.cmp_map_eq a b, cmp_eq_compare, Int.compare_swap]

theorem compare_natCast (m n : ℕ) : compare (m : ℤ) n = compare m n := by
  rw [← cmp_eq_compare, ← cmp_eq_compare, Nat.strictMono_cast.cmp_map_eq]

/-- Numbers are compared by their places. -/
theorem compare_eq {u v : UnpackedFloat} (hu : u ≠ .notANumber) (hv : v ≠ .notANumber) :
    u.compare v = some (compare (place u) (place v)) := by
  rcases u with (_ | _) | _ | _ | ⟨_ | _, m, e, _⟩ <;>
    rcases v with (_ | _) | _ | _ | ⟨_ | _, m', e', _⟩ <;>
    first
    | exact absurd rfl hu
    | exact absurd rfl hv
    | refine (congrArg some ((compare_toLex _ _ _ _ _ _).trans ?_)).symm
  case finite.negative.finite.negative =>
    rw [compare_neg e e', compare_neg m m', compare_natCast, ← Ordering.swap_then]
    rfl
  case finite.positive.finite.positive =>
    rw [compare_natCast]
    rfl
  -- Unless both are finite and of one sign, the first parts of the places decide.
  all_goals rfl

/-! ## Numbers in order -/

/-- Whether a floating-point number is a number. -/
def IsNumber (x : Float) : Prop :=
  x.toModel.unpack ≠ .notANumber

/-- Where a floating-point number stands among the others. -/
def placeOf (x : Float) : ℤ ×ₗ ℤ ×ₗ ℤ :=
  place x.toModel.unpack

variable {a b c : Float}

theorem compare_of_not_isNumber (h : ¬ (IsNumber a ∧ IsNumber b)) :
    a.toModel.unpack.compare b.toModel.unpack = none := by
  simp only [IsNumber, ne_eq, not_and_or, not_not] at h
  rcases h with h | h
  · rw [h]
    rfl
  · rw [h]
    rcases a.toModel.unpack with (_ | _) | _ | _ | ⟨_ | _, _, _, _⟩ <;> rfl

theorem le_iff : a ≤ b ↔ IsNumber a ∧ IsNumber b ∧ placeOf a ≤ placeOf b := by
  have hle : a ≤ b ↔ a.toModel.unpack.le b.toModel.unpack = true := decide_eq_true_iff
  rw [hle, UnpackedFloat.le, ← and_assoc]
  by_cases h : IsNumber a ∧ IsNumber b
  · simp [compare_eq h.1 h.2, h, placeOf, Ordering.isLE_iff_eq_lt_or_eq_eq, compare_lt_iff_lt,
      compare_eq_iff_eq, le_iff_lt_or_eq]
  · simp [compare_of_not_isNumber h, h]

theorem lt_iff : a < b ↔ IsNumber a ∧ IsNumber b ∧ placeOf a < placeOf b := by
  have hlt : a < b ↔ a.toModel.unpack.lt b.toModel.unpack = true := decide_eq_true_iff
  rw [hlt, UnpackedFloat.lt, ← and_assoc]
  by_cases h : IsNumber a ∧ IsNumber b
  · simp [compare_eq h.1 h.2, h, compare_lt_iff_lt, placeOf]
  · simp [compare_of_not_isNumber h, h]

theorem IsNumber.le_refl (h : IsNumber a) : a ≤ a :=
  le_iff.2 ⟨h, h, le_rfl⟩

theorem IsNumber.not_lt_iff (ha : IsNumber a) (hb : IsNumber b) : ¬ a < b ↔ b ≤ a := by
  rw [lt_iff, le_iff]
  simp [ha, hb]

theorem isNumber_of_le (h : a ≤ b) : IsNumber b :=
  (le_iff.1 h).2.1

theorem Float.le_trans (hab : a ≤ b) (hbc : b ≤ c) : a ≤ c := by
  obtain ⟨ha, -, hab⟩ := le_iff.1 hab
  obtain ⟨-, hc, hbc⟩ := le_iff.1 hbc
  exact le_iff.2 ⟨ha, hc, hab.trans hbc⟩

theorem Float.le_of_lt (h : a < b) : a ≤ b := by
  obtain ⟨ha, hb, h⟩ := lt_iff.1 h
  exact le_iff.2 ⟨ha, hb, h.le⟩

theorem Float.lt_of_le_of_lt (hab : a ≤ b) (hbc : b < c) : a < c := by
  obtain ⟨ha, -, hab⟩ := le_iff.1 hab
  obtain ⟨-, hc, hbc⟩ := lt_iff.1 hbc
  exact lt_iff.2 ⟨ha, hc, hab.trans_lt hbc⟩

end Audience.Number
