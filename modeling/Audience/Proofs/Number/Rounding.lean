import Audience.Number.Binary
import Audience.Number.Reading
import Audience.Proofs.Number.Integer
import Mathlib.Algebra.Order.Field.Power
import Mathlib.Data.Rat.Cast.Order
import Mathlib.Tactic.NormNum
import Mathlib.Tactic.Positivity
import Mathlib.Tactic.Ring

set_option autoImplicit false

/-! # Rounding stays finite

A decimal below the greatest finite number is read as a finite number (`isFinite_nearestFloat`). The
argument follows the last place of a number, the power of two that its mantissa counts: a result that is
rounded is finite when its last place is no higher than that of the greatest number. Rounding moves the
mantissa down to 53 bits and may carry into one bit more, which takes it one place up
(`fits_roundWithAccuracy`); below the greatest number there is room for that. Products and quotients are
rounded the same way, so one bound on the value does for both ways in which a decimal is read: by powers
of ten that are floating-point numbers themselves, and by exact arithmetic. -/

namespace Audience.Number

open Float.Model (UnpackedFloat Format totalExponent)
open Float.Model.UnpackedFloat (Accuracy ExtendedMantissa Sign pack roundWithAccuracy
  shiftToTargetExponent unpack unpackExponent unpackExponent_packComponents packComponents unpackMantissa)

/-! ## Rounding -/

/-- Zero, or a number of which the last place is no higher than a power of two. -/
def Fits (top : Int) : UnpackedFloat → Prop
  | .zero _ => True
  | .finite _ _ e _ => e ≤ top
  | _ => False

theorem fits_ofMantissa (s : Sign) (m : Nat) {e top : Int} (h : e ≤ top) :
    Fits top (if hm : m = 0 then .zero s else .finite s m e (Nat.pos_of_ne_zero hm)) := by
  by_cases hm : m = 0
  · rw [dif_pos hm]
    trivial
  · rw [dif_neg hm]
    exact h

theorem mantissa_shiftRight (em : ExtendedMantissa) (n : Nat) :
    (em >>> n).mantissa = em.mantissa / 2 ^ n := by
  change (n.repeat ExtendedMantissa.shiftRightOne em).mantissa = em.mantissa / 2 ^ n
  induction n with
  | zero => simp [Nat.repeat]
  | succ n ih =>
      change (n.repeat ExtendedMantissa.shiftRightOne em).mantissa / 2 = _
      rw [ih, Nat.div_div_eq_div_mul, pow_succ]

theorem roundedMantissa_le (em : ExtendedMantissa) : em.roundedMantissa ≤ em.mantissa + 1 := by
  obtain ⟨m, r, s⟩ := em
  cases r <;> cases s <;>
    simp only [ExtendedMantissa.roundedMantissa, ExtendedMantissa.accuracy,
      Accuracy.roundToNearestEven] <;> omega

theorem targetExponent_eq (t : Int) : Format.binary64.targetExponent t = max (t - 53) (-1074) := rfl

/-- Where a mantissa is brought to. -/
theorem shiftToTargetExponent_eq (m : Nat) (e : Int) (acc : Accuracy) :
    (shiftToTargetExponent Format.binary64 m e acc).2 = max e (max (m.log2 + 1 + e - 53) (-1074)) ∧
    (shiftToTargetExponent Format.binary64 m e acc).1.mantissa
      = m / 2 ^ ((max e (max (m.log2 + 1 + e - 53) (-1074))) - e).toNat := by
  have hstart : (ExtendedMantissa.ofMantissaAndAccuracy m acc).mantissa = m := by
    cases acc with
    | exact => rfl
    | inexact o => cases o <;> rfl
  simp only [shiftToTargetExponent, UnpackedFloat.shiftToExponent, targetExponent_eq, totalExponent,
    mantissa_shiftRight, hstart]
  constructor
  · omega
  · congr 2
    omega

theorem log2_le {n k : Nat} (h : n < 2 ^ (k + 1)) : n.log2 ≤ k := by
  by_cases hn : n = 0
  · simp [hn]
  · have := (Nat.log2_lt hn).2 h
    omega

/-- What is rounded stays below a place when its value leaves room for a carry. -/
theorem fits_roundWithAccuracy (s : Sign) {m : Nat} {e top : Int} (acc : Accuracy)
    (htop : -1074 ≤ top) (he : e ≤ top) (hm : m < (2 ^ 53 - 1) * 2 ^ (top - e).toNat) :
    Fits top (roundWithAccuracy Format.binary64 s m e acc) := by
  obtain ⟨hexp, hman⟩ := shiftToTargetExponent_eq m e acc
  generalize hfirst : shiftToTargetExponent Format.binary64 m e acc = first at hexp hman
  obtain ⟨em₁, e₁⟩ := first
  simp only at hexp hman
  obtain ⟨hexp', -⟩ := shiftToTargetExponent_eq em₁.roundedMantissa e₁ .exact
  have hrounded := roundedMantissa_le em₁
  have hfinal : (shiftToTargetExponent Format.binary64 em₁.roundedMantissa e₁ .exact).2 ≤ top := by
    rw [hexp']
    have hbits : m.log2 + 1 + e ≤ top + 53 := by
      have hpow : m < 2 ^ ((top - e).toNat + 52 + 1) := by
        calc m < (2 ^ 53 - 1) * 2 ^ (top - e).toNat := hm
          _ ≤ 2 ^ 53 * 2 ^ (top - e).toNat := Nat.mul_le_mul_right _ (by norm_num)
          _ = 2 ^ ((top - e).toNat + 52 + 1) := by rw [← pow_add]; congr 1; omega
      have := log2_le hpow
      omega
    have hexp₁ : e₁ ≤ top := by omega
    suffices em₁.roundedMantissa.log2 + 1 + e₁ ≤ top + 53 by omega
    by_cases hlast : e₁ = top
    · have hq : em₁.mantissa < 2 ^ 53 - 1 := by
        rw [hman, ← hexp, hlast]
        exact Nat.div_lt_of_lt_mul (by rwa [mul_comm])
      have hlog : em₁.roundedMantissa.log2 ≤ 52 := log2_le (by omega)
      omega
    · have hq : em₁.mantissa < 2 ^ 53 := by
        rw [hman, ← hexp]
        refine Nat.div_lt_of_lt_mul ?_
        calc m < 2 ^ (m.log2 + 1) := Nat.lt_log2_self
          _ ≤ 2 ^ ((e₁ - e).toNat + 53) := Nat.pow_le_pow_right (by norm_num) (by omega)
          _ = 2 ^ (e₁ - e).toNat * 2 ^ 53 := pow_add _ _ _
      have hlog : em₁.roundedMantissa.log2 ≤ 53 := log2_le (by omega)
      omega
  unfold roundWithAccuracy
  rw [hfirst]
  exact fits_ofMantissa s _ hfinal

theorem fits_round (s : Sign) {m : Nat} {e top : Int} (htop : -1074 ≤ top) (he : e ≤ top)
    (hm : m < (2 ^ 53 - 1) * 2 ^ (top - e).toNat) :
    Fits top (UnpackedFloat.round Format.binary64 s m e) := by
  simp only [UnpackedFloat.round, UnpackedFloat.decreaseExponent]
  generalize (e - Format.binary64.targetExponent (totalExponent m e)).toNat = k
  refine fits_roundWithAccuracy _ _ htop (by omega) ?_
  rw [Nat.shiftLeft_eq]
  calc m * 2 ^ k < (2 ^ 53 - 1) * 2 ^ (top - e).toNat * 2 ^ k :=
        Nat.mul_lt_mul_of_pos_right hm (by positivity)
    _ = (2 ^ 53 - 1) * 2 ^ (top - (e - k)).toNat := by
        rw [mul_assoc, ← pow_add]
        congr 2
        omega

section Operations

variable (s₁ s₂ : Sign) {m₁ m₂ : Nat} {e₁ e₂ top : Int} (h₁ : 0 < m₁) (h₂ : 0 < m₂)
  (htop : -1074 ≤ top)
include htop

theorem fits_mul (he : e₁ + e₂ ≤ top)
    (hm : m₁ * m₂ < (2 ^ 53 - 1) * 2 ^ (top - (e₁ + e₂)).toNat) :
    Fits top (UnpackedFloat.mul Format.binary64 (.finite s₁ m₁ e₁ h₁) (.finite s₂ m₂ e₂ h₂)) :=
  fits_roundWithAccuracy _ _ htop he hm

theorem fits_div (he : e₁ - e₂ ≤ top)
    (hm : m₁ < m₂ * ((2 ^ 53 - 1) * 2 ^ (top - (e₁ - e₂)).toNat)) :
    Fits top (UnpackedFloat.div Format.binary64 (.finite s₁ m₁ e₁ h₁) (.finite s₂ m₂ e₂ h₂)) := by
  dsimp only [UnpackedFloat.div, UnpackedFloat.divCore]
  generalize hlow : min (e₁ - e₂) (Format.binary64.targetExponent
    (totalExponent m₁ e₁ - totalExponent m₂ e₂)) = low
  have hle : low ≤ e₁ - e₂ := by omega
  refine fits_roundWithAccuracy _ _ htop (by omega) ?_
  rw [Nat.shiftLeft_eq]
  refine Nat.div_lt_of_lt_mul ?_
  calc m₁ * 2 ^ (e₁ - e₂ - low).toNat
      < m₂ * ((2 ^ 53 - 1) * 2 ^ (top - (e₁ - e₂)).toNat) * 2 ^ (e₁ - e₂ - low).toNat :=
        Nat.mul_lt_mul_of_pos_right hm (by positivity)
    _ = m₂ * ((2 ^ 53 - 1) * 2 ^ (top - low).toNat) := by
        rw [mul_assoc, mul_assoc, ← pow_add]
        congr 3
        omega

end Operations

theorem fullMantissa_lt (k : Nat) : (2 ^ 53 - 1) * 2 ^ k < 2 ^ (53 + k) := by
  rw [pow_add]
  exact Nat.mul_lt_mul_of_pos_right (by norm_num) (by positivity)

theorem fits_ofScientific {m : Nat} {e top : Int} (htop : 0 ≤ top) (hlow : top ≤ 1000)
    (h : m * 10 ^ e.toNat < (2 ^ 53 - 1) * 2 ^ top.toNat * 10 ^ (-e).toNat) :
    Fits top (UnpackedFloat.ofScientific Format.binary64 m e) := by
  unfold UnpackedFloat.ofScientific
  by_cases hm : m = 0
  · rw [dif_pos hm]
    trivial
  rw [dif_neg hm]
  have hmpos : 0 < m := Nat.pos_of_ne_zero hm
  have hsmall : ¬ (2 ^ 11 : Int) < e := by
    intro hlarge
    have hneg : (-e).toNat = 0 := by omega
    have hten : (2 ^ 53 - 1) * 2 ^ top.toNat < m * 10 ^ e.toNat := by
      calc (2 ^ 53 - 1) * 2 ^ top.toNat < 2 ^ (53 + top.toNat) := fullMantissa_lt _
        _ ≤ 2 ^ e.toNat := Nat.pow_le_pow_right (by norm_num) (by omega)
        _ ≤ 10 ^ e.toNat := Nat.pow_le_pow_left (by norm_num) _
        _ ≤ m * 10 ^ e.toNat := Nat.le_mul_of_pos_left _ hmpos
    rw [hneg, pow_zero, mul_one] at h
    exact absurd h (Nat.lt_asymm hten)
  rw [if_neg hsmall]
  by_cases htiny : e < -(2 ^ Format.binary64.exponentBits + (m.log2 : Int))
  · rw [if_pos htiny]
    trivial
  rw [if_neg htiny]
  by_cases hnonneg : 0 ≤ e
  · rw [if_pos hnonneg]
    have hneg : (-e).toNat = 0 := by omega
    rw [hneg, pow_zero, mul_one] at h
    have hbits : Format.binary64.mantissaBits = 53 := rfl
    refine fits_mul _ _ _ _ (by omega) (by rw [hbits]; omega) ?_
    rw [Nat.shiftLeft_eq, hbits]
    calc m * 2 ^ 53 * 10 ^ e.toNat = m * 10 ^ e.toNat * 2 ^ 53 := by ring
      _ < (2 ^ 53 - 1) * 2 ^ top.toNat * 2 ^ 53 := Nat.mul_lt_mul_of_pos_right h (by norm_num)
      _ = (2 ^ 53 - 1) * 2 ^ (top - (-((53 : Nat) : Int) + 0)).toNat := by
          rw [mul_assoc, ← pow_add]
          congr 2
          omega
  · rw [if_neg hnonneg]
    have hpos : e.toNat = 0 := by omega
    rw [hpos, pow_zero, mul_one] at h
    refine fits_div _ _ _ _ (by omega) (by omega) ?_
    rw [sub_zero, sub_zero, mul_comm]
    exact h

/-! ## Packing and unpacking -/

theorem bias_eq : (Format.binary64.exponentBias : Int) = 1023 := rfl

/-- The exponent as it is stored. -/
def exponentField (x : Float) : Nat :=
  (@unpackExponent Format.binary64 x.toModel.toBits.toBitVec).toNat

theorem exponentField_eq (x : Float) :
    exponentField x = x.toBits.toNat / leadingOne % 2048 := by
  simp only [exponentField, unpackExponent, BitVec.toNat_cast, BitVec.extractLsb_toNat,
    Nat.shiftRight_eq_div_pow]
  rfl

theorem exponentField_lt (x : Float) : exponentField x < 2048 :=
  (@unpackExponent Format.binary64 x.toModel.toBits.toBitVec).isLt

/-- Zero, or a number with a mantissa of 53 bits at most and a last place that is no higher than a power
of two. -/
def Within (top : Int) : UnpackedFloat → Prop
  | .zero _ => True
  | .finite _ m e _ => m < 2 ^ 53 ∧ e ≤ top
  | _ => False

theorem Within.isFinite {top : Int} : {u : UnpackedFloat} → Within top u → u.isFinite = true
  | .zero _, _ => rfl
  | .finite _ _ _ _, _ => rfl

theorem exponentBits_eq_iff (x : Float) :
    @unpackExponent Format.binary64 x.toModel.toBits.toBitVec = -1#_ ↔ exponentField x = 2047 := by
  rw [← BitVec.toNat_inj]
  rfl

theorem within_unpack {x : Float} {top : Int} (hlow : -1074 ≤ top)
    (hfinite : exponentField x ≠ 2047) (htop : (exponentField x : Int) ≤ top + 1075) :
    Within top x.toModel.unpack := by
  have hplaces : (Format.binary64.mantissaBitsWithoutImplicit : Int) = 52 := rfl
  have hfield : (@unpackExponent Format.binary64 x.toModel.toBits.toBitVec).toNat = exponentField x :=
    rfl
  unfold Float.Model.unpack unpack
  rw [if_neg (mt (exponentBits_eq_iff x).1 hfinite)]
  by_cases hsmall : @unpackExponent Format.binary64 x.toModel.toBits.toBitVec = 0#_
  · have hfield0 : exponentField x = 0 := by rw [← hfield, hsmall]; rfl
    rw [if_pos hsmall]
    by_cases hzero : @unpackMantissa Format.binary64 x.toModel.toBits.toBitVec = 0#_
    · rw [dif_pos hzero]
      trivial
    · rw [dif_neg hzero]
      refine ⟨?_, ?_⟩
      · exact Nat.lt_trans (@unpackMantissa Format.binary64 x.toModel.toBits.toBitVec).isLt (by decide)
      · rw [hfield, hfield0, bias_eq, hplaces]
        omega
  · rw [if_neg hsmall]
    refine ⟨?_, ?_⟩
    · exact (1#1 ++ @unpackMantissa Format.binary64 x.toModel.toBits.toBitVec).isLt
    · rw [hfield, bias_eq, hplaces]
      omega

/-- The highest last place that a finite number has. -/
theorem within_top {x : Float} (h : exponentField x ≠ 2047) : Within 971 x.toModel.unpack := by
  have hlt := exponentField_lt x
  exact within_unpack (by norm_num) h (by omega)

theorem isFinite_iff (x : Float) : x.isFinite = true ↔ exponentField x ≠ 2047 := by
  change x.toModel.unpack.isFinite = true ↔ _
  constructor
  · intro hfinite hlast
    unfold Float.Model.unpack unpack at hfinite
    rw [if_pos ((exponentBits_eq_iff x).2 hlast)] at hfinite
    split at hfinite <;> cases hfinite
  · intro h
    exact (within_top h).isFinite

theorem exponentField_pack {u : UnpackedFloat} {top : Int} (h : Fits top u) (hlow : -1074 ≤ top)
    (hhigh : top ≤ 971) :
    exponentField (.ofModel (.pack u)) ≠ 2047 ∧
      (exponentField (.ofModel (.pack u)) : Int) ≤ top + 1075 := by
  have hfield : exponentField (.ofModel (.pack u))
      = (@unpackExponent Format.binary64 (pack Format.binary64 u)).toNat := rfl
  rw [hfield]
  match u, h with
  | .zero s, _ =>
      have hpack : pack Format.binary64 (.zero s) = packComponents Format.binary64 s 0 0 := rfl
      rw [hpack, unpackExponent_packComponents]
      exact ⟨by decide, by simp; omega⟩
  | .finite s m e hm, h =>
      have he : e ≤ top := h
      have hlt : (e + 1023 + (52 : Nat)).toNat < 2 ^ 11 - 1 := by omega
      rw [UnpackedFloat.pack.eq_def]
      dsimp only
      rw [bias_eq, if_neg (by omega)]
      split
      · rw [unpackExponent_packComponents, BitVec.toNat_ofNat,
          Nat.mod_eq_of_lt (by omega)]
        constructor <;> omega
      · rw [unpackExponent_packComponents]
        exact ⟨by decide, by simp; omega⟩

theorem within_unpack_pack {u : UnpackedFloat} {top : Int} (h : Fits top u) (hlow : -1074 ≤ top)
    (hhigh : top ≤ 971) : Within top (Float.ofModel (.pack u)).toModel.unpack :=
  have hfield := exponentField_pack h hlow hhigh
  within_unpack hlow hfield.1 hfield.2

theorem isFinite_pack {u : UnpackedFloat} (h : Fits 971 u) :
    (Float.ofModel (.pack u)).isFinite = true :=
  (isFinite_iff _).2 (exponentField_pack h (by norm_num) le_rfl).1

/-- A number and its negative are finite together. -/
theorem isFinite_neg {x : Float} (h : x.isFinite = true) : (-x).isFinite = true := by
  have hneg : -x = Float.ofModel (.pack x.toModel.unpack.neg) := rfl
  have hwithin := within_top ((isFinite_iff x).1 h)
  rw [hneg]
  refine isFinite_pack ?_
  match x.toModel.unpack, hwithin with
  | .zero s, _ => trivial
  | .finite s m e hm, hwithin => exact hwithin.2

/-! ## Products and quotients of small numbers -/

theorem within_ofNat {n : Nat} (h : n < 2 ^ 53) : Within 1 n.toUInt64.toFloat.toModel.unpack := by
  have hn : n.toUInt64.toNat = n := by
    rw [Nat.toUInt64, UInt64.toNat_ofNat', Nat.mod_eq_of_lt (by omega)]
  have hmodel : n.toUInt64.toFloat
      = Float.ofModel (.pack (UnpackedFloat.normalize Format.binary64 n.toUInt64.toNat 0 .positive)) :=
    rfl
  rw [hmodel, hn]
  refine within_unpack_pack ?_ (by norm_num) (by norm_num)
  unfold UnpackedFloat.normalize
  split
  · next hneg =>
    rw [Int.compare_eq_lt] at hneg
    omega
  · trivial
  · refine fits_round _ (by norm_num) (by norm_num) ?_
    rw [Int.toNat_natCast]
    calc n < 2 ^ 53 := h
      _ ≤ (2 ^ 53 - 1) * 2 ^ (1 - 0 : Int).toNat := by decide

/-- A number that is not zero, with a last place between two powers of two. -/
def isBetween (low top : Int) : UnpackedFloat → Bool
  | .finite _ m e _ => m < 2 ^ 53 && low ≤ e && e ≤ top
  | _ => false

theorem isBetween_finite_iff {low top : Int} {s : Sign} {m : Nat} {e : Int} {h : 0 < m} :
    isBetween low top (.finite s m e h) = true ↔ m < 2 ^ 53 ∧ low ≤ e ∧ e ≤ top := by
  change (decide (m < 2 ^ 53) && decide (low ≤ e) && decide (e ≤ top)) = true ↔ _
  simp only [Bool.and_eq_true, decide_eq_true_eq, and_assoc]

theorem isBetween_powersOfTen : ∀ i : Fin 23,
    isBetween (-52) 21 (Float.exactlyRepresentablePowersOfTen[i.val]).toModel.unpack = true := by
  decide +kernel

theorem isFinite_mul {x y : Float} (hx : Within 1 x.toModel.unpack)
    (hy : isBetween (-52) 21 y.toModel.unpack = true) : (x * y).isFinite = true := by
  have hmul : x * y = Float.ofModel (.pack
    (UnpackedFloat.mul Format.binary64 x.toModel.unpack y.toModel.unpack)) := rfl
  rw [hmul]
  refine isFinite_pack ?_
  match x.toModel.unpack, hx, y.toModel.unpack, hy with
  | .zero s, _, .finite s' m' e' h', _ => trivial
  | .finite s m e h, hx, .finite s' m' e' h', hy =>
    obtain ⟨hm, he⟩ := hx
    obtain ⟨hm', hlow, htop⟩ := isBetween_finite_iff.1 hy
    refine fits_mul _ _ _ _ (by norm_num) (by omega) ?_
    calc m * m' < 2 ^ 53 * 2 ^ 53 := Nat.mul_lt_mul'' hm hm'
      _ ≤ (2 ^ 53 - 1) * 2 ^ 54 := by norm_num
      _ ≤ (2 ^ 53 - 1) * 2 ^ (971 - (e + e')).toNat :=
          Nat.mul_le_mul_left _ (Nat.pow_le_pow_right (by norm_num) (by omega))

theorem isFinite_div {x y : Float} (hx : Within 1 x.toModel.unpack)
    (hy : isBetween (-52) 21 y.toModel.unpack = true) : (x / y).isFinite = true := by
  have hdiv : x / y = Float.ofModel (.pack
    (UnpackedFloat.div Format.binary64 x.toModel.unpack y.toModel.unpack)) := rfl
  rw [hdiv]
  refine isFinite_pack ?_
  match x.toModel.unpack, hx, y.toModel.unpack, hy with
  | .zero s, _, .finite s' m' e' h', _ => trivial
  | .finite s m e h, hx, .finite s' m' e' h', hy =>
    obtain ⟨hm, he⟩ := hx
    obtain ⟨hm', hlow, htop⟩ := isBetween_finite_iff.1 hy
    refine fits_div _ _ _ _ (by norm_num) (by omega) ?_
    calc m < 2 ^ 53 := hm
      _ ≤ (2 ^ 53 - 1) * 2 ^ 1 := by norm_num
      _ ≤ (2 ^ 53 - 1) * 2 ^ (971 - (e - e')).toNat :=
          Nat.mul_le_mul_left _ (Nat.pow_le_pow_right (by norm_num) (by omega))
      _ ≤ m' * ((2 ^ 53 - 1) * 2 ^ (971 - (e - e')).toNat) := Nat.le_mul_of_pos_left _ h'

/-! ## Reading a decimal -/

/-- Every number below this one is rounded to a finite one. It is the greatest finite number itself. -/
def greatest : Nat :=
  (2 ^ 53 - 1) * 2 ^ (971 : Int).toNat

theorem isFinite_ofScientific {m k : Nat} {negative : Bool}
    (h : if negative then m < greatest * 10 ^ k else m * 10 ^ k < greatest) :
    (OfScientific.ofScientific m negative k : Float).isFinite = true := by
  change (Float.ofScientific m negative k).isFinite = true
  unfold Float.ofScientific
  split
  · next hfast =>
    have hpower := isBetween_powersOfTen ⟨k, by omega⟩
    split
    · exact isFinite_div (within_ofNat hfast.1) hpower
    · exact isFinite_mul (within_ofNat hfast.1) hpower
  · refine isFinite_pack (fits_ofScientific (by norm_num) (by norm_num) ?_)
    cases negative with
    | true =>
        have hexp : (if true = true then Int.negOfNat k else Int.ofNat k) = -(k : Int) := by
          rw [if_pos rfl, Int.negOfNat_eq]
          rfl
        rw [hexp, neg_neg, Int.toNat_natCast, Int.toNat_neg_natCast, pow_zero, mul_one]
        exact h
    | false =>
        have hexp : (if false = true then Int.negOfNat k else Int.ofNat k) = (k : Int) := rfl
        rw [hexp, Int.toNat_natCast, Int.toNat_neg_natCast, pow_zero, mul_one]
        exact h

/-- A number is no smaller than the power of ten that has as many digits. -/
theorem ten_pow_le {m : Nat} (hm : m ≠ 0) : 10 ^ ((natText m).length - 1) ≤ m := by
  by_cases hone : (natText m).length - 1 = 0
  · rw [hone]
    omega
  · by_contra hsmall
    have hlen := (Nat.length_toDigits_le_iff (b := 10) (by decide) (Nat.pos_of_ne_zero hone)).2
      (not_le.1 hsmall)
    have hpos : 0 < (natText m).length := by omega
    have hsame : (natText m).length ≤ (natText m).length - 1 := hlen
    omega

theorem greatest_lt : greatest < 2 ^ (53 + (971 : Int).toNat) :=
  fullMantissa_lt _

/-- A decimal below the greatest finite number is read as a finite number. -/
theorem isFinite_nearestFloat {m : Nat} {e : Int} (h : (m : ℚ) * 10 ^ e < greatest) :
    (nearestFloat m e).isFinite = true := by
  have hzero : (0.0 : Float).isFinite = true := by decide +kernel
  unfold nearestFloat
  dsimp only
  split
  · exact hzero
  next hm =>
  have hreach : ¬ 310 < ((natText m).length : Int) + e := by
    intro hlarge
    have hgreatest : greatest ≤ 10 ^ 310 := greatest_lt.le.trans (by decide +kernel)
    have hlarge' : ((310 : Nat) : Int) ≤ ((natText m).length - 1 : Nat) + e := by
      have := List.length_pos_of_ne_nil (natText_ne_nil m)
      omega
    have hbound : (greatest : ℚ) ≤ m * 10 ^ e := by
      calc (greatest : ℚ) ≤ ((10 ^ 310 : Nat) : ℚ) := Nat.cast_le.2 hgreatest
        _ = 10 ^ ((310 : Nat) : Int) := by rw [Nat.cast_pow, zpow_natCast]; rfl
        _ ≤ 10 ^ (((natText m).length - 1 : Nat) + e) := zpow_le_zpow_right₀ (by norm_num) hlarge'
        _ = 10 ^ ((natText m).length - 1) * 10 ^ e := by
            rw [zpow_add₀ (by norm_num), zpow_natCast]
        _ ≤ m * 10 ^ e := by
            refine mul_le_mul_of_nonneg_right ?_ (by positivity)
            exact_mod_cast ten_pow_le hm
    exact absurd h (not_lt.2 hbound)
  rw [if_neg hreach]
  split
  · exact hzero
  split
  · next hnonneg =>
    refine isFinite_ofScientific ?_
    obtain ⟨k, rfl⟩ := Int.eq_ofNat_of_zero_le hnonneg
    rw [if_neg (by simp)]
    rw [zpow_natCast] at h
    exact_mod_cast h
  · next hneg =>
    refine isFinite_ofScientific ?_
    obtain ⟨k, hk⟩ := Int.eq_ofNat_of_zero_le (a := -e) (by omega)
    rw [if_pos rfl, hk, Int.toNat_natCast]
    have he : e = -(k : Int) := by omega
    rw [he, zpow_neg, zpow_natCast, ← div_eq_mul_inv, div_lt_iff₀ (by positivity)] at h
    exact_mod_cast h

end Audience.Number
