import Audience.Proofs.Number.Plain
import Mathlib

set_option autoImplicit false

/-! # Integers beyond 64 bits

What becomes of an integer that is too large for 64 bits when it is read as a floating-point number and brought
into 64 bits again (`wholeInt64?_nearestFloat`). Reading rounds it to 53 bits. Its last place comes to lie at
`lastPlace`, above the point, so there is no fraction; below `infiniteFrom` the result is finite, and it gives the
last integer of 64 bits on its side. From there on the result is infinity, which gives none.

The model of floating-point numbers rounds and packs in steps. Its packing loses nothing of a number that has all
its bits (`unpack_pack_finite`), and rounding a longer number leaves it all of them, one place further up if the
rounding carries (`roundWithAccuracy_of_long`). -/

namespace Audience.Number

open Float.Model (UnpackedFloat Format totalExponent)
open Float.Model.UnpackedFloat (Accuracy ExtendedMantissa Sign pack packComponents roundWithAccuracy
  shiftToTargetExponent unpack unpackExponent unpackMantissa unpackSign unpackExponent_packComponents
  unpackMantissa_packComponents unpackSign_packComponents)

/-! ## What a floating-point number stands for -/

/-- What an unpacked number stands for. -/
def Binary.ofUnpacked : UnpackedFloat → Binary
  | .notANumber => .nan
  | .infinity s => .infinite (s == .negative)
  | .zero s => .finite (s == .negative) 0 (-1074)
  | .finite s m e _ => .finite (s == .negative) m e

theorem mantissaField_eq (x : Float) :
    (@unpackMantissa Format.binary64 x.toModel.toBits.toBitVec).toNat = x.toBits.toNat % leadingOne := by
  simp only [unpackMantissa, BitVec.toNat_cast, BitVec.extractLsb_toNat, Nat.shiftRight_zero]
  rfl

theorem signField_eq (x : Float) :
    (Sign.ofBitVec (@unpackSign Format.binary64 x.toModel.toBits.toBitVec) == .negative)
      = (x.toBits.toNat / leadingOne / 2048 == 1) := by
  have hsign : (@unpackSign Format.binary64 x.toModel.toBits.toBitVec).toNat
      = x.toBits.toNat / leadingOne / 2048 % 2 := by
    simp only [unpackSign, BitVec.toNat_cast, BitVec.extractLsb_toNat, Nat.shiftRight_eq_div_pow,
      Nat.div_div_eq_div_mul]
    rfl
  have hbits : x.toBits.toNat / leadingOne / 2048 < 2 := by
    have hlt : x.toBits.toNat < 2 ^ 64 := x.toBits.toNat_lt
    have hleading : leadingOne = 2 ^ 52 := rfl
    rw [hleading]
    omega
  generalize @unpackSign Format.binary64 x.toModel.toBits.toBitVec = sign at hsign
  generalize x.toBits.toNat / leadingOne / 2048 = bit at hsign hbits
  rw [Nat.mod_eq_of_lt hbits] at hsign
  rw [Sign.ofBitVec]
  split
  · next hpositive =>
    obtain rfl : bit = 0 := by rw [← hsign, hpositive]; rfl
    rfl
  · next hnegative =>
    have hne : bit ≠ 0 := fun h => hnegative (BitVec.eq_of_toNat_eq (hsign.trans h))
    obtain rfl : bit = 1 := by omega
    rfl

/-- The mantissa with its leading one, which is not stored. -/
theorem toNat_one_append (b : BitVec 52) : (1#1 ++ b).toNat = leadingOne + b.toNat := by
  rw [BitVec.toNat_append]
  exact (Nat.shiftLeft_add_eq_or_of_lt b.isLt 1).symm

/-- Both ways to take a number apart agree. -/
theorem Binary.ofFloat_eq (x : Float) : Binary.ofFloat x = .ofUnpacked x.toModel.unpack := by
  have hmantissa := mantissaField_eq x
  have hlast := exponentBits_eq_iff x
  have hzeroField : @unpackExponent Format.binary64 x.toModel.toBits.toBitVec = 0#_ ↔ exponentField x = 0 := by
    rw [← BitVec.toNat_inj]
    rfl
  have hzeroMantissa : @unpackMantissa Format.binary64 x.toModel.toBits.toBitVec = 0#_ ↔
      x.toBits.toNat % leadingOne = 0 := by
    rw [← BitVec.toNat_inj, hmantissa]
    rfl
  have hfull : (1#1 ++ @unpackMantissa Format.binary64 x.toModel.toBits.toBitVec).toNat
      = leadingOne + x.toBits.toNat % leadingOne :=
    (toNat_one_append _).trans (congrArg _ hmantissa)
  have hexponent : ((@unpackExponent Format.binary64 x.toModel.toBits.toBitVec).toNat : Int)
      = exponentField x := rfl
  have hplaces : (Format.binary64.mantissaBitsWithoutImplicit : Int) = 52 := rfl
  unfold Float.Model.unpack unpack Binary.ofFloat
  simp only [← exponentField_eq, ← signField_eq, hlast, hzeroField, hzeroMantissa]
  split
  · split <;> rfl
  · split
    · next hleast =>
      split
      · next hzero => simp only [ofUnpacked, hzero]
      · simp only [ofUnpacked, finite.injEq, hmantissa, hexponent, hleast, bias_eq, hplaces]
        exact ⟨trivial, trivial, by norm_num⟩
    · simp only [ofUnpacked, finite.injEq, hfull, hexponent, bias_eq, hplaces]
      exact ⟨trivial, trivial, by ring⟩

/-! ## Numbers with all bits -/

/-- How a number is packed of which the mantissa has all its bits. -/
theorem pack_finite (s : Sign) {m : Nat} {e : Int} (h : 0 < m) (hm : m.log2 = 52) (hhigh : e ≤ 971) :
    pack Format.binary64 (.finite s m e h)
      = packComponents Format.binary64 s (BitVec.ofNat 11 (e + 1075).toNat) (BitVec.ofNat 52 m) := by
  have hexponent : e + (Format.binary64.exponentBias : Int) + (52 : Nat) = e + 1075 := by
    rw [bias_eq]
    omega
  rw [UnpackedFloat.pack.eq_def]
  dsimp only
  rw [hexponent, if_neg (by omega), if_pos (by rw [hm]; rfl)]

/-- Packing and unpacking gives such a number back. -/
theorem unpack_pack_finite (s : Sign) {m : Nat} {e : Int} (h : 0 < m) (hm : m.log2 = 52)
    (hlow : -1074 ≤ e) (hhigh : e ≤ 971) :
    (Float.Model.pack (.finite s m e h)).unpack = .finite s m e h := by
  obtain ⟨hleast, hmost⟩ := (Nat.log2_eq_iff (Nat.ne_of_gt h)).1 hm
  have hfield : (BitVec.ofNat 11 (e + 1075).toNat).toNat = (e + 1075).toNat := by
    rw [BitVec.toNat_ofNat, Nat.mod_eq_of_lt (by omega)]
  have hnotLast : BitVec.ofNat 11 (e + 1075).toNat ≠ -1#11 := by
    intro heq
    rw [heq] at hfield
    have : (2047 : Nat) = (e + 1075).toNat := hfield
    omega
  have hnotZero : BitVec.ofNat 11 (e + 1075).toNat ≠ 0#11 := by
    intro heq
    rw [heq] at hfield
    have : (0 : Nat) = (e + 1075).toNat := hfield
    omega
  have hfull : (1#1 ++ BitVec.ofNat 52 m).toNat = m := by
    have hleading : leadingOne = 2 ^ 52 := rfl
    rw [toNat_one_append, BitVec.toNat_ofNat, hleading]
    omega
  have hunpack : (Float.Model.pack (.finite s m e h)).unpack
      = unpack Format.binary64 (pack Format.binary64 (.finite s m e h)) := rfl
  rw [hunpack, pack_finite s h hm hhigh, unpack]
  simp only [unpackMantissa_packComponents, unpackExponent_packComponents, unpackSign_packComponents,
    Sign.ofBitVec_toBitVec, hnotLast, hnotZero, if_false, hfield, hfull, bias_eq]
  congr 1
  omega

theorem unpack_pack_infinity (s : Sign) :
    (Float.Model.pack (.infinity s)).unpack = .infinity s := by
  cases s <;> rfl

/-- Beyond the last exponent there is only infinity. -/
theorem pack_of_overflow {s : Sign} {m : Nat} {e : Int} {h : 0 < m} (he : 971 < e) :
    Float.Model.pack (.finite s m e h) = .pack (.infinity s) := by
  have hpack : pack Format.binary64 (.finite s m e h) = pack Format.binary64 (.infinity s) := by
    have hexponent : 2 ^ Format.binary64.exponentBits ≤
        (e + (Format.binary64.exponentBias : Int) + Format.binary64.mantissaBitsWithoutImplicit).toNat + 1 := by
      have hbits : 2 ^ Format.binary64.exponentBits = 2048 := rfl
      have hplaces : (Format.binary64.mantissaBitsWithoutImplicit : Int) = 52 := rfl
      rw [bias_eq, hbits, hplaces]
      omega
    rw [UnpackedFloat.pack.eq_def, UnpackedFloat.pack.eq_def]
    exact if_pos hexponent
  simp only [Float.Model.pack, hpack]

/-- A packed number is negated in its sign alone. -/
theorem neg_pack {u : UnpackedFloat} (h : (Float.Model.pack u).unpack = u) :
    -(Float.ofModel (.pack u)) = Float.ofModel (.pack u.neg) := by
  have hneg : -(Float.ofModel (.pack u)) = Float.ofModel (.pack (Float.Model.pack u).unpack.neg) := rfl
  rw [hneg, h]

theorem ofFloat_pack {u : UnpackedFloat} (h : (Float.Model.pack u).unpack = u) :
    Binary.ofFloat (.ofModel (.pack u)) = .ofUnpacked u := by
  rw [Binary.ofFloat_eq]
  exact congrArg Binary.ofUnpacked h

/-! ## Rounding to all bits -/

theorem le_roundedMantissa (em : ExtendedMantissa) : em.mantissa ≤ em.roundedMantissa := by
  obtain ⟨m, r, s⟩ := em
  cases r <;> cases s <;>
    simp only [ExtendedMantissa.roundedMantissa, ExtendedMantissa.accuracy,
      Accuracy.roundToNearestEven] <;> omega

/-- An odd mantissa is rounded up exactly when the next bit is set: halves go to the even neighbour. -/
theorem roundedMantissa_of_odd {em : ExtendedMantissa} (h : em.mantissa % 2 = 1) :
    em.roundedMantissa = em.mantissa + em.roundBit.toNat := by
  obtain ⟨m, r, s⟩ := em
  simp only at h
  cases r <;> cases s <;>
    simp [ExtendedMantissa.roundedMantissa, ExtendedMantissa.accuracy, Accuracy.roundToNearestEven, h]

theorem roundBit_shiftRight (em : ExtendedMantissa) (n : Nat) :
    (em >>> (n + 1)).roundBit = (em.mantissa / 2 ^ n % 2 != 0) := by
  rw [← mantissa_shiftRight]
  rfl

/-- The first 53 bits of a longer mantissa, with what rounding needs to know of the others. -/
def firstBits (m : Nat) : ExtendedMantissa :=
  ExtendedMantissa.ofMantissaAndAccuracy m .exact >>> (m.log2 - 53 + 1)

theorem shiftToTargetExponent_of_long {m : Nat} {e : Int} (hm : 53 ≤ m.log2)
    (hlow : -1074 ≤ m.log2 + e - 52) :
    shiftToTargetExponent Format.binary64 m e .exact = (firstBits m, m.log2 + e - 52) := by
  have hamount : (max (m.log2 + 1 + e - 53) (-1074) - e).toNat = m.log2 - 53 + 1 := by omega
  simp only [shiftToTargetExponent, UnpackedFloat.shiftToExponent, targetExponent_eq, totalExponent,
    hamount, firstBits, Prod.mk.injEq, true_and]
  omega

theorem mantissa_firstBits (m : Nat) : (firstBits m).mantissa = m / 2 ^ (m.log2 - 53 + 1) :=
  mantissa_shiftRight _ _

theorem roundBit_firstBits (m : Nat) : (firstBits m).roundBit = (m / 2 ^ (m.log2 - 53) % 2 != 0) :=
  roundBit_shiftRight _ _

theorem mantissa_firstBits_bounds {m : Nat} (hm : 53 ≤ m.log2) :
    2 ^ 52 ≤ (firstBits m).mantissa ∧ (firstBits m).mantissa < 2 ^ 53 := by
  have hpos : m ≠ 0 := by
    rintro rfl
    simp at hm
  rw [mantissa_firstBits]
  constructor
  · rw [Nat.le_div_iff_mul_le (by positivity), ← pow_add]
    calc 2 ^ (52 + (m.log2 - 53 + 1)) = 2 ^ m.log2 := by congr 1; omega
      _ ≤ m := Nat.log2_self_le hpos
  · refine Nat.div_lt_of_lt_mul ?_
    calc m < 2 ^ (m.log2 + 1) := Nat.lt_log2_self
      _ = 2 ^ (m.log2 - 53 + 1) * 2 ^ 53 := by rw [← pow_add]; congr 1; omega

/-- Rounding carries out of 53 bits exactly from the middle between the greatest mantissa and the next power
of two. -/
theorem roundedMantissa_firstBits_eq_iff {m : Nat} (hm : 53 ≤ m.log2) :
    (firstBits m).roundedMantissa = 2 ^ 53 ↔ (2 ^ 54 - 1) * 2 ^ (m.log2 - 53) ≤ m := by
  obtain ⟨-, hlt⟩ := mantissa_firstBits_bounds hm
  have hbit := roundBit_firstBits m
  have hle := roundedMantissa_le (firstBits m)
  have hman : (firstBits m).mantissa = m / 2 ^ (m.log2 - 53) / 2 := by
    rw [mantissa_firstBits, pow_succ, Nat.div_div_eq_div_mul]
  rw [← Nat.le_div_iff_mul_le (by positivity)]
  -- From here on `q` is the mantissa with the bit after it.
  generalize m / 2 ^ (m.log2 - 53) = q at hman hbit
  constructor
  · intro hcarry
    have hlast : (firstBits m).mantissa = 2 ^ 53 - 1 := by omega
    have hodd : (firstBits m).mantissa % 2 = 1 := by omega
    rw [roundedMantissa_of_odd hodd] at hcarry
    cases hset : (firstBits m).roundBit with
    | false =>
        rw [hset, Bool.toNat_false] at hcarry
        omega
    | true =>
        rw [hbit, bne_iff_ne] at hset
        omega
  · intro hq
    have hodd : (firstBits m).mantissa % 2 = 1 := by omega
    have hset : (firstBits m).roundBit = true := by
      rw [hbit, bne_iff_ne]
      omega
    rw [roundedMantissa_of_odd hodd, hset, Bool.toNat_true]
    omega

/-- A mantissa of 53 bits at most stays as it is. -/
theorem shiftToTargetExponent_of_short {r : Nat} {e : Int} (hr : r.log2 = 52) (hlow : -1074 ≤ e) :
    (shiftToTargetExponent Format.binary64 r e .exact).1.mantissa = r ∧
      (shiftToTargetExponent Format.binary64 r e .exact).2 = e := by
  have hplace : max e (max ((r.log2 : Int) + 1 + e - 53) (-1074)) = e := by
    rw [hr]
    omega
  obtain ⟨hexp, hman⟩ := shiftToTargetExponent_eq r e .exact
  rw [hplace] at hexp hman
  rw [Int.sub_self, Int.toNat_zero, pow_zero, Nat.div_one] at hman
  exact ⟨hman, hexp⟩

/-- A carry leaves one bit too many, and it is a zero. -/
theorem shiftToTargetExponent_carry {e : Int} (hlow : -1074 ≤ e) :
    (shiftToTargetExponent Format.binary64 (2 ^ 53) e .exact).1.mantissa = 2 ^ 52 ∧
      (shiftToTargetExponent Format.binary64 (2 ^ 53) e .exact).2 = e + 1 := by
  have hlog : (2 ^ 53 : Nat).log2 = 53 := Nat.log2_two_pow
  have hplace : max e (max (((2 ^ 53 : Nat).log2 : Int) + 1 + e - 53) (-1074)) = e + 1 := by
    rw [hlog]
    omega
  obtain ⟨hexp, hman⟩ := shiftToTargetExponent_eq (2 ^ 53) e .exact
  rw [hplace] at hexp hman
  have hone : (e + 1 - e).toNat = 1 := by omega
  rw [hone] at hman
  exact ⟨hman, hexp⟩

/-- A long mantissa is rounded to one with all bits, one place further up when rounding carries. -/
theorem roundWithAccuracy_of_long (s : Sign) {m : Nat} {e : Int} (hm : 53 ≤ m.log2)
    (hlow : -1074 ≤ m.log2 + e - 52) :
    ∃ m', ∃ h : 0 < m', m'.log2 = 52 ∧ roundWithAccuracy Format.binary64 s m e .exact
      = .finite s m' (m.log2 + e - 52 + if (2 ^ 54 - 1) * 2 ^ (m.log2 - 53) ≤ m then 1 else 0) h := by
  have hbounds := mantissa_firstBits_bounds hm
  have hlower := le_roundedMantissa (firstBits m)
  have hupper := roundedMantissa_le (firstBits m)
  simp only [roundWithAccuracy, shiftToTargetExponent_of_long hm hlow,
    ← roundedMantissa_firstBits_eq_iff hm]
  by_cases hcarry : (firstBits m).roundedMantissa = 2 ^ 53
  · obtain ⟨hman, hexp⟩ := shiftToTargetExponent_carry hlow
    simp only [hcarry, hman, hexp]
    exact ⟨2 ^ 52, by norm_num, Nat.log2_two_pow, rfl⟩
  · have hpos : (firstBits m).roundedMantissa ≠ 0 := by omega
    have hlog : (firstBits m).roundedMantissa.log2 = 52 :=
      (Nat.log2_eq_iff hpos).2 ⟨by omega, by omega⟩
    obtain ⟨hman, hexp⟩ := shiftToTargetExponent_of_short hlog hlow
    simp only [hman, hexp, hcarry, hpos, if_false, dif_neg, not_false_eq_true, add_zero]
    exact ⟨_, Nat.pos_of_ne_zero hpos, hlog, rfl⟩

/-! ## Reading large integers -/

/-- Every integer from here on is rounded to infinity. It lies in the middle between the greatest finite
number and `2 ^ 1024`. -/
def infiniteFrom : Nat :=
  (2 ^ 54 - 1) * 2 ^ 970

/-- Where the last place of an integer comes to lie when it is rounded to 53 bits. -/
def lastPlace (n : Nat) : Int :=
  n.log2 - 52 + if (2 ^ 54 - 1) * 2 ^ n.log2 ≤ n * 2 ^ 53 then 1 else 0

theorem lastPlace_le_iff {n : Nat} (hn : n ≠ 0) : lastPlace n ≤ 971 ↔ n < infiniteFrom := by
  have hlog := Nat.log2_self_le hn
  have hlog' := Nat.lt_log2_self (n := n)
  unfold lastPlace
  rcases Nat.lt_trichotomy n.log2 1023 with hlow | hlast | hhigh
  · have hsmall : n < infiniteFrom := by
      calc n < 2 ^ (n.log2 + 1) := hlog'
        _ ≤ 2 ^ (53 + 970) := pow_le_pow_right₀ (by norm_num) (by omega)
        _ = 2 ^ 53 * 2 ^ 970 := pow_add _ _ _
        _ ≤ infiniteFrom := Nat.mul_le_mul_right _ (by norm_num)
    refine iff_of_true ?_ hsmall
    split <;> omega
  · -- At the last place of all, a carry leads to infinity.
    have hmiddle : (2 ^ 54 - 1) * 2 ^ 1023 ≤ n * 2 ^ 53 ↔ infiniteFrom ≤ n := by
      have hscaled : (2 ^ 54 - 1) * 2 ^ (970 + 53) = infiniteFrom * 2 ^ 53 := by
        rw [pow_add, ← mul_assoc, infiniteFrom]
      rw [hscaled]
      exact Nat.mul_le_mul_right_iff (by norm_num)
    rw [hlast]
    split
    · next hlarge => exact iff_of_false (by omega) (not_lt.2 (hmiddle.1 hlarge))
    · next hsmall => exact iff_of_true (by omega) (not_le.1 (mt hmiddle.2 hsmall))
  · have hlarge : infiniteFrom ≤ n := by
      calc infiniteFrom ≤ 2 ^ 54 * 2 ^ 970 := Nat.mul_le_mul_right _ (by norm_num)
        _ = 2 ^ (54 + 970) := (pow_add 2 54 970).symm
        _ ≤ 2 ^ n.log2 := pow_le_pow_right₀ (by norm_num) hhigh
        _ ≤ n := hlog
    refine iff_of_false ?_ (not_lt.2 hlarge)
    split <;> omega

theorem log2_mul_two_pow {n : Nat} (hn : n ≠ 0) (k : Nat) : (n * 2 ^ k).log2 = n.log2 + k := by
  rw [Nat.log2_eq_iff (by positivity)]
  constructor
  · rw [pow_add]
    exact Nat.mul_le_mul_right _ (Nat.log2_self_le hn)
  · rw [add_right_comm, pow_add]
    exact Nat.mul_lt_mul_of_pos_right Nat.lt_log2_self (by positivity)

/-- The model puts zeros after the bits of an integer before it rounds. -/
theorem ofScientific_integer {n : Nat} (hn : n ≠ 0) :
    UnpackedFloat.ofScientific Format.binary64 n 0
      = roundWithAccuracy Format.binary64 .positive (n * 2 ^ 53) (-53) .exact := by
  have hmantissa : (n <<< Format.binary64.mantissaBits) * 10 ^ (0 : Int).toNat = n * 2 ^ 53 := by
    rw [Nat.shiftLeft_eq, Int.toNat_zero, pow_zero, mul_one]
    rfl
  have hlow : ¬ (0 : Int) < -((2 : Int) ^ Format.binary64.exponentBits + (n.log2 : Int)) := by
    have : (0 : Int) < 2 ^ Format.binary64.exponentBits := by positivity
    omega
  rw [UnpackedFloat.ofScientific, dif_neg hn, if_neg (by decide), if_neg hlow, if_pos le_rfl, ← hmantissa]
  rfl

theorem ofScientific_of_large {n : Nat} (hn : 2 ^ 63 ≤ n) :
    ∃ m, ∃ h : 0 < m, m.log2 = 52 ∧ (OfScientific.ofScientific n false 0 : Float)
      = .ofModel (.pack (.finite .positive m (lastPlace n) h)) := by
  have hpos : n ≠ 0 := by omega
  have hlog : 63 ≤ n.log2 := (Nat.le_log2 hpos).2 hn
  have hscaled : (n * 2 ^ 53).log2 = n.log2 + 53 := log2_mul_two_pow hpos 53
  obtain ⟨m, h, hm, hround⟩ :=
    roundWithAccuracy_of_long .positive (m := n * 2 ^ 53) (e := -53) (by omega) (by omega)
  refine ⟨m, h, hm, ?_⟩
  have hslow : ¬ (n < 2 ^ 53 ∧ 0 ≤ 22) := by omega
  have hplace : ((n * 2 ^ 53).log2 : Int) + -53 - 52
      + (if (2 ^ 54 - 1) * 2 ^ ((n * 2 ^ 53).log2 - 53) ≤ n * 2 ^ 53 then 1 else 0) = lastPlace n := by
    rw [lastPlace, hscaled, Nat.add_sub_cancel]
    push_cast
    ring
  simp only [hplace] at hround
  change Float.ofScientific n false 0 = _
  rw [Float.ofScientific, dif_neg hslow, ← hround, ← ofScientific_integer hpos]
  rfl

/-- Up to 310 digits an integer is read as it is. -/
theorem nearestFloat_integer {n : Nat} (hn : n ≠ 0) :
    nearestFloat n 0
      = if 310 < (natText n).length then 1.0 / 0.0 else OfScientific.ofScientific n false 0 := by
  have hlow : ¬ ((natText n).length : Int) < -330 := by omega
  simp only [nearestFloat, hn, if_false, add_zero, hlow, le_refl, if_true, Int.toNat_zero]
  norm_cast

/-- A large integer is read as a number with all bits and no fraction, or as infinity. -/
theorem nearestFloat_of_large {n : Nat} (hn : 2 ^ 63 ≤ n) :
    (n < infiniteFrom ∧ ∃ m e, ∃ h : 0 < m, m.log2 = 52 ∧ 11 ≤ e ∧ e ≤ 971 ∧
      nearestFloat n 0 = .ofModel (.pack (.finite .positive m e h))) ∨
    (infiniteFrom ≤ n ∧ nearestFloat n 0 = .ofModel (.pack (.infinity .positive))) := by
  have hpos : n ≠ 0 := by omega
  obtain ⟨m, h, hm, hround⟩ := ofScientific_of_large hn
  have hinfinity : (1.0 / 0.0 : Float) = .ofModel (.pack (.infinity .positive)) := by decide +kernel
  have hplace := lastPlace_le_iff hpos
  rw [nearestFloat_integer hpos]
  rcases Nat.lt_or_ge n infiniteFrom with hsmall | hlarge
  · have hdigits : ¬ 310 < (natText n).length := by
      have htop : infiniteFrom < 10 ^ 310 := by decide +kernel
      have := (Nat.length_toDigits_le_iff (b := 10) (by decide) (by norm_num)).2 (hsmall.trans htop)
      exact not_lt.2 this
    have hlow : 11 ≤ lastPlace n := by
      have hlog : 63 ≤ n.log2 := (Nat.le_log2 hpos).2 hn
      unfold lastPlace
      split <;> omega
    rw [if_neg hdigits]
    exact .inl ⟨hsmall, m, lastPlace n, h, hm, hlow, hplace.2 hsmall, hround⟩
  · refine .inr ⟨hlarge, ?_⟩
    split
    · exact hinfinity
    · rw [hround, pack_of_overflow]
      exact not_le.1 (mt hplace.1 (not_lt.2 hlarge))

/-! ## 64 bits -/

theorem ofIntClamp_of_le {n : Int} (h : n ≤ Int64.minValue.toInt) : Int64.ofIntClamp n = Int64.minValue := by
  rcases h.eq_or_lt with rfl | hlt
  · exact Int64.ofIntClamp_toInt _
  · rw [Int64.ofIntClamp, dif_neg (not_le.2 hlt)]

theorem ofIntClamp_of_lt {n : Int} (h : Int64.maxValue.toInt < n) : Int64.ofIntClamp n = Int64.maxValue := by
  have hlow : Int64.minValue.toInt ≤ n := by
    have : Int64.minValue.toInt ≤ Int64.maxValue.toInt := by decide
    omega
  rw [Int64.ofIntClamp, dif_pos hlow, dif_neg (not_le.2 h)]

theorem wholeInt64?_pack_finite (s : Sign) {m : Nat} {e : Int} (h : 0 < m) (hm : m.log2 = 52) (hlow : 11 ≤ e)
    (hhigh : e ≤ 971) :
    Scalar.wholeInt64? (.ofModel (.pack (.finite s m e h)))
      = some (if s == .negative then Int64.minValue else Int64.maxValue) := by
  have hvalue : Binary.ofFloat (.ofModel (.pack (.finite s m e h))) = .finite (s == .negative) m e :=
    ofFloat_pack (unpack_pack_finite s h hm (by omega) hhigh)
  have hlarge : 2 ^ 63 ≤ m * 2 ^ e.toNat := by
    obtain ⟨hleast, -⟩ := (Nat.log2_eq_iff (Nat.ne_of_gt h)).1 hm
    calc 2 ^ 63 = 2 ^ 52 * 2 ^ 11 := by norm_num
      _ ≤ m * 2 ^ e.toNat := Nat.mul_le_mul hleast (Nat.pow_le_pow_right (by norm_num) (by omega))
  have hwhole : Number.isWhole (.ofModel (.pack (.finite s m e h))) = true := by
    have he : 0 ≤ e := by omega
    simp [isWhole, hvalue, he]
  have hpart : integerPart (s == .negative) m e
      = if s == .negative then -((m * 2 ^ e.toNat : Nat) : Int) else (m * 2 ^ e.toNat : Nat) := by
    have hneg : (-e).toNat = 0 := by omega
    simp [integerPart, hneg]
  rw [Scalar.wholeInt64?, if_pos hwhole, toInt64, hvalue]
  dsimp only
  rw [hpart]
  have hmin := Int64.toInt_minValue
  have hmax := Int64.toInt_maxValue
  generalize m * 2 ^ e.toNat = size at hlarge
  cases s with
  | negative =>
      have hclamp : Int64.ofIntClamp (-(size : Int)) = Int64.minValue := ofIntClamp_of_le (by omega)
      exact congrArg some hclamp
  | positive =>
      have hclamp : Int64.ofIntClamp size = Int64.maxValue := ofIntClamp_of_lt (by omega)
      exact congrArg some hclamp

theorem wholeInt64?_pack_infinity (s : Sign) :
    Scalar.wholeInt64? (.ofModel (.pack (.infinity s))) = none := by
  have hvalue : Binary.ofFloat (.ofModel (.pack (.infinity s))) = .infinite (s == .negative) :=
    ofFloat_pack (unpack_pack_infinity s)
  have hwhole : Number.isWhole (.ofModel (.pack (.infinity s))) = false := by
    simp [isWhole, hvalue]
  rw [Scalar.wholeInt64?, if_neg (by simp [hwhole])]

/-- A large integer that is read as a floating-point number gives the last integer of 64 bits on its side, and
none at all once it is rounded to infinity. -/
theorem wholeInt64?_nearestFloat {n : Nat} (hn : 2 ^ 63 ≤ n) (negative : Bool) :
    Scalar.wholeInt64? (if negative then -nearestFloat n 0 else nearestFloat n 0)
      = if n < infiniteFrom then some (if negative then Int64.minValue else Int64.maxValue) else none := by
  obtain ⟨hfinite, m, e, h, hm, hlow, hhigh, hread⟩ | ⟨hinfinite, hread⟩ := nearestFloat_of_large hn
  · rw [if_pos hfinite, hread, neg_pack (unpack_pack_finite .positive h hm (by omega) hhigh)]
    cases negative with
    | true => exact wholeInt64?_pack_finite .negative h hm hlow hhigh
    | false => exact wholeInt64?_pack_finite .positive h hm hlow hhigh
  · rw [if_neg (not_lt.2 hinfinite), hread, neg_pack (unpack_pack_infinity .positive)]
    cases negative with
    | true => exact wholeInt64?_pack_infinity .negative
    | false => exact wholeInt64?_pack_infinity .positive

end Audience.Number
