set_option autoImplicit false

/-! # Whole numbers

Decimal digits and the 64-bit integers they stand for. A number that does not fit 64 bits is not
read at all: it never wraps round. -/

namespace Audience.Number

/-- The number a string of digits stands for; any other character makes it no number. -/
def readNat? (ds : List Char) : Option Nat :=
  if ds.isEmpty || !ds.all Char.isDigit then none else some (Nat.ofDigitChars 10 ds 0)

/-- The 64-bit integer of the same value, for a value in range. -/
def int64? (n : Int) : Option Int64 :=
  if Int64.minValue.toInt ≤ n ∧ n ≤ Int64.maxValue.toInt then some (.ofInt n) else none

/-- The integer written as an optional sign and digits. -/
def readInt? : List Char → Option Int
  | '-' :: ds => (readNat? ds).map fun n => -(n : Int)
  | '+' :: ds => (readNat? ds).map fun n => (n : Int)
  | ds => (readNat? ds).map fun n => (n : Int)

/-- The 64-bit integer written as an optional sign and digits. -/
def readInt64? (cs : List Char) : Option Int64 :=
  (readInt? cs).bind int64?

/-- The decimal digits of a number, without a needless zero in front. -/
def natText (n : Nat) : List Char :=
  Nat.toDigits 10 n

/-- The decimal digits of an integer, after a minus sign when it is negative. -/
def intText (n : Int) : List Char :=
  if n < 0 then '-' :: natText n.natAbs else natText n.natAbs

/-- The decimal text of a 64-bit integer. -/
def int64Text (n : Int64) : String :=
  .ofList (intText n.toInt)

/-- Digits with zeros put in front until they are at least `width`. -/
def padded (width n : Nat) : List Char :=
  let ds := natText n
  List.replicate (width - ds.length) '0' ++ ds

end Audience.Number
