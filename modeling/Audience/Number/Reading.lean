import Audience.Number.Integer

set_option autoImplicit false

/-! # Reading floating-point numbers

A number is written as digits with an optional fraction and exponent, or by a name for infinity or
NaN in any case, after an optional sign. The digits may be on one side of the point only. The result
is the number nearest to what is written. -/

namespace Audience.Number

/-- The number nearest to `m · 10 ^ e`. What is out of reach of every exponent is decided by its
magnitude alone, so that a huge exponent costs nothing. -/
def nearestFloat (m : Nat) (e : Int) : Float :=
  let magnitude := (natText m).length + e
  if m = 0 then 0.0
  else if 310 < magnitude then 1.0 / 0.0
  else if magnitude < -330 then 0.0
  else if 0 ≤ e then OfScientific.ofScientific m false e.toNat
  else OfScientific.ofScientific m true (-e).toNat

/-- The exponent after the digits of a number: nothing at all, or a marked integer. -/
def readExponent? : List Char → Option Int
  | [] => some 0
  | c :: rest => if c = 'e' ∨ c = 'E' then readInt? rest else none

/-- The number written as digits, fraction and exponent, without a sign. -/
def readUnsigned? (cs : List Char) : Option Float :=
  let whole := cs.takeWhile Char.isDigit
  let rest := cs.dropWhile Char.isDigit
  let (fraction, rest) := match rest with
    | '.' :: after => (after.takeWhile Char.isDigit, after.dropWhile Char.isDigit)
    | _ => ([], rest)
  if whole.isEmpty && fraction.isEmpty then none
  else (readExponent? rest).map fun e =>
    nearestFloat (Nat.ofDigitChars 10 (whole ++ fraction) 0) (e - fraction.length)

/-- The number that a name stands for, in any case. -/
def readNamed? (cs : List Char) : Option Float :=
  let name := String.ofList (cs.map Char.toLower)
  if name = "inf" ∨ name = "infinity" then some (1.0 / 0.0)
  else if name = "nan" then some (0.0 / 0.0)
  else none

/-- The floating-point number that a text is, if it is one. -/
def readFloat? (cs : List Char) : Option Float :=
  let (negative, body) := match cs with
    | '-' :: rest => (true, rest)
    | '+' :: rest => (false, rest)
    | _ => (false, cs)
  let size := (readUnsigned? body).or (readNamed? body)
  size.map fun x => if negative then -x else x

end Audience.Number
