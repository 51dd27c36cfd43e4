import Audience.Json.Value
import Audience.Number.Integer

set_option autoImplicit false

/-! # Number literals of JSON

A literal is a sign, digits without a needless zero in front, and optionally a fraction and an
exponent. As many of its digits as fit 64 bits make up the significand; the digits after those only
move the point. The significand is turned into a floating-point number first and scaled by one power
of ten after, so the result is not always the nearest one. A literal too large for any number has no
value. -/

namespace Audience.Json

/-- The parts of a number literal. Without a fraction or an exponent it is an integer literal. -/
structure Literal where
  negative : Bool
  whole : List Char
  fraction : Option (List Char)
  exponent : Option (Bool × List Char)

/-- The largest significand. -/
def maxSignificand : Nat := UInt64.size - 1

/-- Take digits into the significand until the next one would not fit; the second part counts the
digits taken and the third holds those left out. -/
def takeDigits (significand count : Nat) : List Char → Nat × Nat × List Char
  | [] => (significand, count, [])
  | d :: rest =>
    let next := significand * 10 + (d.toNat - '0'.toNat)
    if maxSignificand < next then (significand, count, d :: rest)
    else takeDigits next (count + 1) rest

/-- Powers of ten up to the largest that is a finite number. -/
def powerOfTen (n : Nat) : Float :=
  OfScientific.ofScientific 1 false n

/-- Scale a number by a power of ten. Above the range it has no value; far below it, steps of
`10 ^ -308` bring it down to zero. -/
def scale (fuel : Nat) (x : Float) (exponent : Int) : Option Float :=
  if exponent.natAbs ≤ 308 then
    if 0 ≤ exponent then
      let y := x * powerOfTen exponent.natAbs
      if y.isInf then none else some y
    else some (x / powerOfTen exponent.natAbs)
  else if x == 0.0 then some x
  else if 0 ≤ exponent then none
  else match fuel with
    | 0 => some 0.0
    | fuel + 1 => scale fuel (x / powerOfTen 308) (exponent + 308)

/-- The exponent of a literal, which stops at the bounds of 32 bits: none when it is larger. -/
def exponentOf (negative : Bool) (digits : List Char) : Option Int :=
  let n : Int := Nat.ofDigitChars 10 digits 0
  if Int32.maxValue.toInt < n then none else some (if negative then -n else n)

/-- The floating-point value of a literal. -/
def Literal.real? (l : Literal) : Option Float :=
  let (significand, _, dropped) := takeDigits 0 0 l.whole
  let (significand, taken, _) := takeDigits significand 0 (l.fraction.getD [])
  let point : Int := dropped.length - taken
  let size := significand.toUInt64.toFloat
  let magnitude := match l.exponent with
    | none => scale 4 size point
    | some (negative, digits) =>
      match exponentOf negative digits with
      | some e => scale 4 size (max Int32.minValue.toInt (min Int32.maxValue.toInt (point + e)))
      | none => if significand ≠ 0 && !negative then none else some 0.0
  magnitude.map fun x => if l.negative then -x else x

/-- The value of a literal: an integer if it is an integer literal in range, and minus zero is no
integer. -/
def Literal.value? (l : Literal) : Option Number :=
  match l.fraction, l.exponent with
  | none, none =>
    let n := Nat.ofDigitChars 10 l.whole 0
    if l.negative then
      if n ≠ 0 ∧ Int64.minValue.toInt ≤ -n then some (.integer (-n)) else l.real?.map .real
    else if n ≤ maxSignificand then some (.integer n) else l.real?.map .real
  | _, _ => l.real?.map .real

end Audience.Json
