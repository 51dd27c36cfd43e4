import Audience.Number.Text
import Audience.Proofs.Number.Rounding
import Audience.Scalar

set_option autoImplicit false

/-! # Plain texts of finite numbers

The plain text of a floating-point number is read as a finite number again exactly when the number is
finite (`Scalar.isSome_ofNumberText?_display_iff`). The shortest decimal lies no more than half a place
above the number it was taken for, and a text in positions is read as the decimal that it shows, so all
but the greatest number stay below the greatest one. That one is read back by itself. -/

namespace Audience.Number

/-! ## The shortest decimal -/

/-- The number that a decimal stands for. -/
def Decimal.toRat (d : Decimal) : ℚ :=
  d.digits * 10 ^ d.scale

theorem Decimal.toRat_strip (fuel : Nat) (d : Decimal) : (d.strip fuel).toRat = d.toRat := by
  induction fuel generalizing d with
  | zero => rfl
  | succ fuel ih =>
      rw [Decimal.strip]
      split
      · next h =>
        have hdigits : d.digits = 10 * (d.digits / 10) := by omega
        have hcast : (d.digits : ℚ) = 10 * (d.digits / 10 : Nat) := by exact_mod_cast hdigits
        rw [ih, Decimal.toRat, Decimal.toRat, hcast, zpow_add_one₀ (by norm_num)]
        ring
      · rfl

/-- Powers of ten on both sides, so that no exponent is negative. -/
theorem ten_zpow (k : Int) : (10 : ℚ) ^ k * 10 ^ (-k).toNat = 10 ^ k.toNat := by
  rw [← zpow_natCast, ← zpow_natCast, ← zpow_add₀ (by norm_num)]
  congr 1
  omega

/-- A decimal that is taken lies no higher than the interval. -/
theorem Interval.nearest?_le {tie : Tie} {i : Interval} (hi : i.value ≤ i.high) {scale : Int} {n : Nat}
    (h : i.nearest? tie scale = some n) :
    (n : ℚ) * 10 ^ scale * i.unit ≤ i.high * i.quarter := by
  have hnat : n * (Nat.pow 10 scale.toNat * i.unit)
      ≤ i.high * (Nat.pow 10 (-scale).toNat * i.quarter) := by
    -- The lower neighbour lies below the number; the upper one is taken only where the interval has it.
    have hbelow : i.value * (Nat.pow 10 (-scale).toNat * i.quarter)
        / (Nat.pow 10 scale.toNat * i.unit) * (Nat.pow 10 scale.toNat * i.unit)
        ≤ i.high * (Nat.pow 10 (-scale).toNat * i.quarter) :=
      (Nat.div_mul_le_self _ _).trans (Nat.mul_le_mul_right _ hi)
    simp only [Interval.nearest?] at h
    split at h
    · next hb ha =>
      obtain rfl := Option.some.inj h
      split_ifs
      · split at ha
        · exact of_decide_eq_true ha
        · exact (of_decide_eq_true ha).le
      · exact hbelow
    · next hb ha =>
      split at h
      · simp at h
      · obtain rfl := Option.some.inj h
        exact hbelow
    · next hb ha =>
      obtain rfl := Option.some.inj h
      split at ha
      · exact of_decide_eq_true ha
      · exact (of_decide_eq_true ha).le
    · simp at h
  have hrat : (n : ℚ) * (10 ^ scale.toNat * i.unit) ≤ i.high * (10 ^ (-scale).toNat * i.quarter) := by
    exact_mod_cast hnat
  have hpos : (0 : ℚ) < 10 ^ (-scale).toNat := by positivity
  refine le_of_mul_le_mul_right ?_ hpos
  calc (n : ℚ) * 10 ^ scale * i.unit * 10 ^ (-scale).toNat
      = n * (10 ^ scale * 10 ^ (-scale).toNat * i.unit) := by ring
    _ = n * (10 ^ scale.toNat * i.unit) := by rw [ten_zpow]
    _ ≤ i.high * (10 ^ (-scale).toNat * i.quarter) := hrat
    _ = i.high * i.quarter * 10 ^ (-scale).toNat := by ring

theorem Interval.search_le (tie : Tie) {i : Interval} (hi : i.value ≤ i.high) (fuel : Nat) (scale : Int) :
    (i.search tie fuel scale).toRat * i.unit ≤ i.high * i.quarter := by
  induction fuel generalizing scale with
  | zero =>
      simp only [Interval.search, Decimal.toRat, Nat.cast_zero, zero_mul]
      positivity
  | succ fuel ih =>
      rw [Interval.search]
      split
      · next n hn => exact nearest?_le hi hn
      · exact ih (scale - 1)

theorem quarter_eq (m : Nat) (e : Int) :
    ((Interval.of m e).quarter : ℚ) = 2 ^ (e - 2) * (Interval.of m e).unit := by
  have hq : ((Interval.of m e).quarter : ℚ) = 2 ^ (e - 2).toNat := by simp [Interval.of]
  have hu : ((Interval.of m e).unit : ℚ) = 2 ^ (2 - e).toNat := by simp [Interval.of]
  rw [hq, hu, ← zpow_natCast, ← zpow_natCast, ← zpow_add₀ (by norm_num)]
  congr 1
  omega

/-- The shortest decimal lies no more than half a place above the number. -/
theorem shortest_le (tie : Tie) (m : Nat) (e : Int) :
    (shortest tie m e).toRat ≤ (4 * m + 2) * 2 ^ (e - 2) := by
  unfold shortest
  split
  · next h =>
    simp only [Decimal.toRat, Nat.cast_zero, zero_mul]
    positivity
  · dsimp only
    rw [Decimal.toRat_strip]
    have hunit : (0 : ℚ) < (Interval.of m e).unit := by
      simp only [Interval.of, Nat.pow_eq, Nat.cast_pow]
      positivity
    have hvalue : (Interval.of m e).value ≤ (Interval.of m e).high := by simp [Interval.of]
    have hsearch := Interval.search_le tie hvalue 18 ((Interval.of m e).magnitude 330)
    refine le_of_mul_le_mul_right (hsearch.trans (le_of_eq ?_)) hunit
    rw [quarter_eq]
    simp only [Interval.of]
    push_cast
    ring

/-- Below a full mantissa at the highest place there is room for half a place. -/
theorem shortest_lt (tie : Tie) {m top : Nat} {e : Int} (hm : m < 2 ^ 53) (he : e ≤ top)
    (hroom : m + 1 < 2 ^ 53 ∨ e < top) :
    (shortest tie m e).toRat < ((2 ^ 53 - 1) * 2 ^ top : Nat) := by
  obtain ⟨k, hk⟩ := Int.eq_ofNat_of_zero_le (Int.sub_nonneg_of_le he)
  have hnat : 4 * m + 2 < (2 ^ 53 - 1) * (4 * 2 ^ k) := by
    rcases hroom with hroom | hroom
    · calc 4 * m + 2 < (2 ^ 53 - 1) * (4 * 1) := by omega
        _ ≤ (2 ^ 53 - 1) * (4 * 2 ^ k) := by gcongr; exact Nat.one_le_two_pow
    · have hpow : 2 ^ 1 ≤ 2 ^ k := Nat.pow_le_pow_right (by norm_num) (by omega)
      calc 4 * m + 2 < (2 ^ 53 - 1) * (4 * 2 ^ 1) := by omega
        _ ≤ (2 ^ 53 - 1) * (4 * 2 ^ k) := by gcongr
  have hrat : (4 * m + 2 : ℚ) < ((2 ^ 53 - 1 : Nat) : ℚ) * (4 * 2 ^ k) := by exact_mod_cast hnat
  have htop : (2 : ℚ) ^ top = 4 * 2 ^ k * 2 ^ (e - 2) := by
    have hfour : (4 : ℚ) = 2 ^ (2 : Int) := by norm_num
    rw [hfour, ← zpow_natCast, ← zpow_natCast, ← zpow_add₀ (by norm_num),
      ← zpow_add₀ (by norm_num)]
    congr 1
    omega
  calc (shortest tie m e).toRat ≤ (4 * m + 2) * 2 ^ (e - 2) := shortest_le tie m e
    _ < ((2 ^ 53 - 1 : Nat) : ℚ) * (4 * 2 ^ k) * 2 ^ (e - 2) := by gcongr
    _ = ((2 ^ 53 - 1) * 2 ^ top : Nat) := by
        rw [Nat.cast_mul, Nat.cast_pow, Nat.cast_ofNat, htop]
        ring

/-! ## Reading digits -/

theorem takeWhile_digits {ds rest : List Char} (h : ∀ c ∈ ds, c.isDigit = true)
    (hrest : ∀ c ∈ rest.head?, c.isDigit = false) :
    (ds ++ rest).takeWhile Char.isDigit = ds ∧ (ds ++ rest).dropWhile Char.isDigit = rest := by
  have hstop : rest.takeWhile Char.isDigit = [] ∧ rest.dropWhile Char.isDigit = rest := by
    cases rest with
    | nil => exact ⟨rfl, rfl⟩
    | cons c rest => simp [hrest c rfl]
  rw [List.takeWhile_append_of_pos h, List.dropWhile_append_of_pos h, hstop.1, hstop.2,
    List.append_nil]
  exact ⟨rfl, rfl⟩

theorem readUnsigned?_digits {ds : List Char} (hne : ds ≠ []) (h : ∀ c ∈ ds, c.isDigit = true) :
    readUnsigned? ds = some (nearestFloat (Nat.ofDigitChars 10 ds 0) 0) := by
  have hsplit := takeWhile_digits h (show ∀ c ∈ ([] : List Char).head?, c.isDigit = false by simp)
  rw [List.append_nil] at hsplit
  simp [readUnsigned?, hsplit, hne, readExponent?]

theorem readUnsigned?_point {ds fs : List Char} (hne : ds ≠ []) (h : ∀ c ∈ ds, c.isDigit = true)
    (hf : ∀ c ∈ fs, c.isDigit = true) :
    readUnsigned? (ds ++ '.' :: fs)
      = some (nearestFloat (Nat.ofDigitChars 10 (ds ++ fs) 0) (-fs.length)) := by
  have hwhole := takeWhile_digits h (show ∀ c ∈ ('.' :: fs).head?, c.isDigit = false by simp)
  have hfraction := takeWhile_digits hf (show ∀ c ∈ ([] : List Char).head?, c.isDigit = false by simp)
  rw [List.append_nil] at hfraction
  simp [readUnsigned?, hwhole, hfraction, hne, readExponent?]

theorem isDigit_of_mem_append_zeros {ds : List Char} (h : ∀ c ∈ ds, c.isDigit = true) (n : Nat) :
    (∀ c ∈ List.replicate n '0' ++ ds, c.isDigit = true) ∧
      ∀ c ∈ ds ++ List.replicate n '0', c.isDigit = true := by
  have hzeros : ∀ c ∈ List.replicate n '0', c.isDigit = true := by
    intro c hc
    rw [List.eq_of_mem_replicate hc]
    rfl
  exact ⟨List.forall_mem_append.2 ⟨hzeros, h⟩, List.forall_mem_append.2 ⟨h, hzeros⟩⟩

/-- Digits with a point are read as the decimal that they show. -/
theorem readUnsigned?_positional {ds : List Char} (hne : ds ≠ []) (h : ∀ c ∈ ds, c.isDigit = true)
    (point : Int) :
    ∃ m e, readUnsigned? (positional ds point) = some (nearestFloat m e) ∧
      (m : ℚ) * 10 ^ e = Nat.ofDigitChars 10 ds 0 * 10 ^ (point - ds.length) := by
  unfold positional
  split
  · next hpoint =>
    have hread := readUnsigned?_point (List.cons_ne_nil '0' []) (by simp)
      (isDigit_of_mem_append_zeros h (-point).toNat).1
    refine ⟨_, _, hread, ?_⟩
    have hvalue : Nat.ofDigitChars 10 (['0'] ++ (List.replicate (-point).toNat '0' ++ ds)) 0
        = Nat.ofDigitChars 10 ds 0 := by
      simp [Nat.ofDigitChars_append, Nat.ofDigitChars_cons]
    rw [hvalue]
    congr 2
    simp
    omega
  split
  · next hpoint hlong =>
    have hread := readUnsigned?_digits (by simp [hne])
      (isDigit_of_mem_append_zeros h (point.toNat - ds.length)).2
    refine ⟨_, _, hread, ?_⟩
    rw [Nat.ofDigitChars_append, Nat.ofDigitChars_replicate_zero]
    push_cast
    rw [mul_one, mul_comm, ← zpow_natCast]
    congr 2
    omega
  · next hpoint hlong =>
    have hshort : ds.take point.toNat ≠ [] := by
      simp [hne]
      omega
    have htake : ∀ c ∈ ds.take point.toNat, c.isDigit = true :=
      fun c hc => h c (List.mem_of_mem_take hc)
    have hdrop : ∀ c ∈ ds.drop point.toNat, c.isDigit = true :=
      fun c hc => h c (List.mem_of_mem_drop hc)
    refine ⟨_, _, readUnsigned?_point hshort htake hdrop, ?_⟩
    rw [List.take_append_drop]
    congr 2
    simp
    omega

/-! ## Plain texts -/

/-- A finite number has a significand of 53 bits at most, and its last place is no higher than that of the
greatest one. Any other number has no significand. -/
theorem ofFloat_cases (x : Float) :
    (x.isFinite = true ∧ ∃ negative m e, Binary.ofFloat x = .finite negative m e ∧
      m < 2 ^ 53 ∧ e ≤ (971 : Nat)) ∨
    (x.isFinite = false ∧
      (Binary.ofFloat x = .nan ∨ ∃ negative, Binary.ofFloat x = .infinite negative)) := by
  have hfield := exponentField_eq x
  have hlt := exponentField_lt x
  have hleading : leadingOne = 2 ^ 52 := rfl
  have hfraction : x.toBits.toNat % leadingOne < leadingOne := Nat.mod_lt _ (by decide)
  by_cases hlast : exponentField x = 2047
  · right
    refine ⟨by simpa using mt (isFinite_iff x).1 (not_not_intro hlast), ?_⟩
    simp only [Binary.ofFloat, ← hfield, hlast, if_true]
    split
    · exact Or.inr ⟨_, rfl⟩
    · exact Or.inl rfl
  · left
    refine ⟨(isFinite_iff x).2 hlast, ?_⟩
    simp only [Binary.ofFloat, ← hfield, hlast, if_false]
    split
    · exact ⟨_, _, _, rfl, by omega, by omega⟩
    · exact ⟨_, _, _, rfl, by omega, by omega⟩

/-- The digits of a number in positions, without a sign. -/
def sizeText (m : Nat) (e : Int) : List Char :=
  let d := shortest .up m e
  let ds := natText d.digits
  if m = 0 then ['0'] else positional ds (ds.length + d.scale)

theorem plainText_finite {x : Float} {negative : Bool} {m : Nat} {e : Int}
    (h : Binary.ofFloat x = .finite negative m e) : plainText x = signed negative (sizeText m e) := by
  simp only [plainText, h, sizeText]

theorem mem_positional {ds : List Char} {point : Int} {c : Char} (h : c ∈ positional ds point) :
    c ∈ ds ∨ c = '0' ∨ c = '.' := by
  unfold positional at h
  split at h
  · simp only [List.mem_cons, List.mem_append, List.mem_replicate] at h
    tauto
  split at h
  · simp only [List.mem_append, List.mem_replicate] at h
    tauto
  · rcases List.mem_append.1 h with h | h
    · exact Or.inl (List.mem_of_mem_take h)
    · rcases List.mem_cons.1 h with rfl | h
      · exact Or.inr (Or.inr rfl)
      · exact Or.inl (List.mem_of_mem_drop h)

theorem mem_sizeText {m : Nat} {e : Int} {c : Char} (h : c ∈ sizeText m e) :
    c.isDigit = true ∨ c = '.' := by
  simp only [sizeText] at h
  split at h
  · obtain rfl := List.mem_singleton.1 h
    exact Or.inl rfl
  · rcases mem_positional h with h | rfl | rfl
    · exact Or.inl (isDigit_of_mem_natText h)
    · exact Or.inl rfl
    · exact Or.inr rfl

/-- The text of the greatest number is read as a finite one: rounding does not carry it further. -/
theorem isFinite_sizeText_greatest :
    (readUnsigned? (sizeText (2 ^ 53 - 1) 971)).map Float.isFinite = some true := by
  decide +kernel

theorem isFinite_sizeText {m : Nat} {e : Int} (hm : m < 2 ^ 53) (he : e ≤ (971 : Nat)) :
    ∃ y, readUnsigned? (sizeText m e) = some y ∧ y.isFinite = true := by
  by_cases hgreatest : m = 2 ^ 53 - 1 ∧ e = 971
  · obtain ⟨rfl, rfl⟩ := hgreatest
    exact Option.map_eq_some_iff.1 isFinite_sizeText_greatest
  by_cases hzero : m = 0
  · have hread : (readUnsigned? ['0']).map Float.isFinite = some true := by decide +kernel
    rw [sizeText, if_pos hzero]
    exact Option.map_eq_some_iff.1 hread
  rw [sizeText, if_neg hzero]
  generalize hd : shortest .up m e = d
  obtain ⟨n, k, hread, hvalue⟩ := readUnsigned?_positional (natText_ne_nil d.digits)
    (fun c hc => isDigit_of_mem_natText hc) ((natText d.digits).length + d.scale)
  refine ⟨_, hread, isFinite_nearestFloat ?_⟩
  have hdigits : Nat.ofDigitChars 10 (natText d.digits) 0 = d.digits := Nat.ofDigitChars_ten_toDigits
  rw [hvalue, hdigits, add_sub_cancel_left, ← Decimal.toRat, ← hd]
  exact shortest_lt .up hm he (by omega)

/-- A text without a sign is read with the sign that is put in front of it. -/
theorem readFloat?_signed {cs : List Char} {y : Float} (hread : readUnsigned? cs = some y)
    (hsign : ∀ c ∈ cs, c.isDigit = true ∨ c = '.') (negative : Bool) :
    readFloat? (signed negative cs) = some (if negative then -y else y) := by
  cases negative with
  | true => simp [readFloat?, signed, hread]
  | false =>
      cases cs with
      | nil => simp [readFloat?, signed, hread]
      | cons c cs =>
          have hc : c ≠ '-' ∧ c ≠ '+' := by
            rcases hsign c List.mem_cons_self with hdigit | rfl
            · exact ne_sign_of_isDigit hdigit
            · decide
          obtain ⟨hminus, hplus⟩ := hc
          simp [readFloat?, signed, hread, hminus, hplus]

theorem isFinite_readFloat?_plainText {x : Float} (h : x.isFinite = true) :
    ∃ y, readFloat? (plainText x) = some y ∧ y.isFinite = true := by
  obtain ⟨-, negative, m, e, hx, hm, he⟩ | ⟨hinfinite, -⟩ := ofFloat_cases x
  · obtain ⟨y, hread, hy⟩ := isFinite_sizeText hm he
    rw [plainText_finite hx]
    refine ⟨_, readFloat?_signed hread (fun c hc => mem_sizeText hc) negative, ?_⟩
    cases negative with
    | true => exact isFinite_neg hy
    | false => exact hy
  · simp [h] at hinfinite

theorem mem_plainText {x : Float} (h : x.isFinite = true) {c : Char} (hc : c ∈ plainText x) :
    c = '-' ∨ c.isDigit = true ∨ c = '.' := by
  obtain ⟨-, negative, m, e, hx, -⟩ | ⟨hinfinite, -⟩ := ofFloat_cases x
  · rw [plainText_finite hx, signed] at hc
    split at hc
    · exact (List.mem_cons.1 hc).imp_right mem_sizeText
    · exact Or.inr (mem_sizeText hc)
  · simp [h] at hinfinite

theorem isBlank_of_mem_plainText {x : Float} (h : x.isFinite = true) {c : Char}
    (hc : c ∈ plainText x) : Text.isBlank c = false := by
  rcases mem_plainText h hc with rfl | hdigit | rfl
  · decide
  · exact Text.isBlank_of_isDigit hdigit
  · decide

end Audience.Number

namespace Audience.Scalar

open Number (Binary)

/-- The stored text of an integer is the integer again. -/
theorem ofNumberText?_int64Text (n : Int64) :
    ofNumberText? (Number.int64Text n) = some (.int n) := by
  have htrim : Text.trim (Number.int64Text n).toList = (Number.int64Text n).toList :=
    Text.trim_eq_self fun c hc => Number.isBlank_of_mem_intText (by simpa [Number.int64Text] using hc)
  simp only [ofNumberText?, htrim, Number.readInt64?_int64Text]

theorem isSome_ofNumberText?_ofList {cs : List Char} {x : Float}
    (hblank : ∀ c ∈ cs, Text.isBlank c = false) (hread : Number.readFloat? cs = some x)
    (hfinite : x.isFinite = true) : (ofNumberText? (.ofList cs)).isSome = true := by
  simp only [ofNumberText?, String.toList_ofList, Text.trim_eq_self hblank]
  split
  · rfl
  · simp [hread, hfinite]

/-- The stored text of a number is a number again exactly when it is finite. -/
theorem isSome_ofNumberText?_display_iff (x : Float) :
    (ofNumberText? (display (.float x))).isSome = true ↔ x.isFinite = true := by
  obtain ⟨hfinite, -⟩ | ⟨hinfinite, hvalue⟩ := Number.ofFloat_cases x
  · refine iff_of_true ?_ hfinite
    rw [display]
    split
    · rw [ofNumberText?_int64Text]
      rfl
    · obtain ⟨y, hread, hy⟩ := Number.isFinite_readFloat?_plainText hfinite
      exact isSome_ofNumberText?_ofList (fun c hc => Number.isBlank_of_mem_plainText hfinite hc) hread hy
  · refine iff_of_false ?_ (by simp [hinfinite])
    have hnan : (ofNumberText? (.ofList "NaN".toList)).isSome = false := by decide +kernel
    have hinf : ∀ negative,
        (ofNumberText? (.ofList (Number.signed negative "inf".toList))).isSome = false := by
      decide +kernel
    rcases hvalue with hvalue | ⟨negative, hvalue⟩
    · simp only [display, Number.isWhole, Number.plainText, hvalue, Bool.false_and, Bool.false_eq_true,
        if_false, hnan, not_false_eq_true]
    · simp only [display, Number.isWhole, Number.plainText, hvalue, Bool.false_and, Bool.false_eq_true,
        if_false, hinf, not_false_eq_true]

end Audience.Scalar
