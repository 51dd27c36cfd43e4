set_option autoImplicit false

/-! # The exact value of a floating-point number

A finite number is a whole number of powers of two: `significand · 2 ^ exponent`, with a sign of
its own, so that zero has one too. -/

namespace Audience.Number

/-- What a floating-point number stands for. -/
inductive Binary where
  | nan
  | infinite (negative : Bool)
  | finite (negative : Bool) (significand : Nat) (exponent : Int)

/-- The leading one of a significand of fifty-three bits. -/
def leadingOne : Nat :=
  1 <<< 52

/-- Take a floating-point number apart: one sign bit, eleven bits of exponent and fifty-two of
fraction, where the least exponent drops the leading one. -/
def Binary.ofFloat (x : Float) : Binary :=
  let bits := x.toBits.toNat
  let negative := bits / leadingOne / 2048 == 1
  let exponent : Nat := bits / leadingOne % 2048
  let fraction := bits % leadingOne
  if exponent = 2047 then if fraction = 0 then .infinite negative else .nan
  else if exponent = 0 then .finite negative fraction (-1074)
  else .finite negative (leadingOne + fraction) ((exponent : Int) - 1075)

/-- Whether a floating-point number has no fractional part; infinity and NaN are no whole numbers. -/
def isWhole (x : Float) : Bool :=
  match Binary.ofFloat x with
  | .finite _ m e => 0 ≤ e || m % Nat.pow 2 e.natAbs == 0
  | _ => false

/-- The integer that is left of a finite number without its fraction. -/
def integerPart (negative : Bool) (significand : Nat) (exponent : Int) : Int :=
  let size := significand * Nat.pow 2 exponent.toNat / Nat.pow 2 (-exponent).toNat
  if negative then -size else size

/-- The 64-bit integer that is left of a floating-point number without its fraction. What lies beyond
64 bits gives the last integer on its side, and NaN gives zero. -/
def toInt64 (x : Float) : Int64 :=
  match Binary.ofFloat x with
  | .nan => 0
  | .infinite negative => if negative then Int64.minValue else Int64.maxValue
  | .finite negative m e => Int64.ofIntClamp (integerPart negative m e)

end Audience.Number
