import Audience.Number.Binary

set_option autoImplicit false

/-! # The shortest decimal that reads back

Every finite number owns the interval of reals that round to it. Of the decimals in that interval
the ones with the fewest digits are taken, and of those the nearest to the number itself. All
arithmetic is exact. -/

namespace Audience.Number

/-- What to do when two decimals of the same length are equally near. -/
inductive Tie where
  | up
  | toEven

/-- A decimal: `digits · 10 ^ scale`. -/
structure Decimal where
  digits : Nat
  scale : Int

/-- Move the zeros at the end of the digits into the scale. -/
def Decimal.strip (fuel : Nat) (d : Decimal) : Decimal :=
  match fuel with
  | 0 => d
  | fuel + 1 =>
    if d.digits % 10 = 0 ∧ d.digits ≠ 0 then Decimal.strip fuel ⟨d.digits / 10, d.scale + 1⟩ else d

/-- A positive number with the interval that rounds to it. The bounds are counted, like the number
itself, in quarters of its last place, and that quarter is `quarter / unit`. -/
structure Interval where
  low : Nat
  value : Nat
  high : Nat
  closed : Bool
  quarter : Nat
  unit : Nat

/-- The interval of `m · 2 ^ e`. Half a place lies on either side, but only a quarter below a power
of two, where the places turn finer; the ends belong to it when `m` is even. -/
def Interval.of (m : Nat) (e : Int) : Interval where
  low := if m = leadingOne ∧ -1074 < e then 4 * m - 1 else 4 * m - 2
  value := 4 * m
  high := 4 * m + 2
  closed := m % 2 == 0
  quarter := Nat.pow 2 (e - 2).toNat
  unit := Nat.pow 2 (2 - e).toNat

/-- The decimal of scale `scale` within the interval that is nearest to the number, if there is
one. Of all decimals of a scale only the number's two neighbours can be. -/
def Interval.nearest? (tie : Tie) (i : Interval) (scale : Int) : Option Nat :=
  let step := Nat.pow 10 scale.toNat * i.unit
  let grain := Nat.pow 10 (-scale).toNat * i.quarter
  let value := i.value * grain
  let below := value / step
  let above := below + 1
  let hasBelow := if i.closed then i.low * grain ≤ below * step else i.low * grain < below * step
  let hasAbove := if i.closed then above * step ≤ i.high * grain else above * step < i.high * grain
  let down := value - below * step
  let up := above * step - value
  let takeAbove := down > up || (down == up && match tie with
    | .up => true
    | .toEven => below % 2 == 1)
  match decide hasBelow, decide hasAbove with
  | true, true => some (if takeAbove then above else below)
  | true, false => if below = 0 then none else some below
  | false, true => some above
  | false, false => none

/-- How many digits the number has before the decimal point, counted below zero for the zeros
right after it. -/
def Interval.magnitude (fuel : Nat) (i : Interval) : Int :=
  let whole := i.value * i.quarter / i.unit
  if whole ≠ 0 then (Nat.toDigits 10 whole).length
  else go fuel 0
where
  /-- Count the zeros after the point. -/
  go (fuel : Nat) (zeros : Nat) : Int :=
    match fuel with
    | 0 => -zeros
    | fuel + 1 =>
      if i.value * i.quarter * Nat.pow 10 (zeros + 1) ≥ i.unit then -zeros else go fuel (zeros + 1)

/-- The first scale, from coarse to fine, that has a decimal in the interval. -/
def Interval.search (tie : Tie) (i : Interval) (fuel : Nat) (scale : Int) : Decimal :=
  match fuel with
  | 0 => ⟨0, 0⟩
  | fuel + 1 =>
    match i.nearest? tie scale with
    | some digits => ⟨digits, scale⟩
    | none => i.search tie fuel (scale - 1)

/-- The shortest decimal that reads back as `m · 2 ^ e`; seventeen digits are always enough. -/
def shortest (tie : Tie) (m : Nat) (e : Int) : Decimal :=
  if m = 0 then ⟨0, 0⟩
  else
    let i := Interval.of m e
    (i.search tie 18 (i.magnitude 330)).strip 400

end Audience.Number
