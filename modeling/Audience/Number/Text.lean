import Audience.Number.Integer
import Audience.Number.Shortest

set_option autoImplicit false

/-! # Writing floating-point numbers

Both written forms show the shortest digits that read back. The plain form, for text that people
read and for SQL, never has an exponent and drops a fraction of zero. The form for JSON always marks
a number as fractional and turns to an exponent for the very large and the very small. -/

namespace Audience.Number

/-- Digits with the decimal point after the first `point` of them, filled up with zeros. -/
def positional (ds : List Char) (point : Int) : List Char :=
  if point ≤ 0 then '0' :: '.' :: List.replicate (-point).toNat '0' ++ ds
  else if ds.length ≤ point.toNat then ds ++ List.replicate (point.toNat - ds.length) '0'
  else ds.take point.toNat ++ '.' :: ds.drop point.toNat

/-- Digits with the point after the first of them and an exponent to make up for it. -/
def scientific (ds : List Char) (point : Int) : List Char :=
  let mantissa := match ds with
    | d :: e :: rest => d :: '.' :: e :: rest
    | one => one
  mantissa ++ 'e' :: intText (point - 1)

/-- A minus sign in front of a negative number. -/
def signed (negative : Bool) (cs : List Char) : List Char :=
  if negative then '-' :: cs else cs

/-- The plain text of a number: all its digits, no exponent, and a half rounded away from zero. -/
def plainText (x : Float) : List Char :=
  match Binary.ofFloat x with
  | .nan => "NaN".toList
  | .infinite negative => signed negative "inf".toList
  | .finite negative m e =>
    let d := shortest .up m e
    let ds := natText d.digits
    signed negative (if m = 0 then ['0'] else positional ds (ds.length + d.scale))

/-- The text of a number in JSON: positional from `0.00001` up to `10 ^ 16`, and always with a
fraction or an exponent. What is no number at all is written as null. -/
def jsonText (x : Float) : List Char :=
  match Binary.ofFloat x with
  | .nan => "null".toList
  | .infinite _ => "null".toList
  | .finite negative m e =>
    let d := shortest .toEven m e
    let ds := natText d.digits
    let point := ds.length + d.scale
    signed negative <|
      if m = 0 then "0.0".toList
      else if -5 < point ∧ point ≤ 16 then
        if ds.length ≤ point then positional ds point ++ ".0".toList else positional ds point
      else scientific ds point

end Audience.Number
