import Audience.Calendar
import Audience.Json.Reading
import Audience.Number.Reading

set_option autoImplicit false

/-! # Words of TOML

A value that is no string and no container is one word: a truth value, a number, or a date or time.
The forms exclude one another, so each is tried on the whole word. -/

namespace Audience.Toml

/-- Digits without the single underscores that may stand between two of them. -/
def plainDigits? (isDigit : Char → Bool) : List Char → Option (List Char)
  | [] => none
  | [c] => if isDigit c then some [c] else none
  | c :: '_' :: rest =>
    if isDigit c then (plainDigits? isDigit rest).map (c :: ·) else none
  | c :: d :: rest =>
    if isDigit c then (plainDigits? isDigit (d :: rest)).map (c :: ·) else none

/-- Whether a number is negative, and what follows its sign. -/
def takeSign : List Char → Bool × List Char
  | '-' :: rest => (true, rest)
  | '+' :: rest => (false, rest)
  | rest => (false, rest)

/-- The digits of a whole number, which does not start with a needless zero. -/
def wholeDigits? (cs : List Char) : Option (List Char) :=
  match plainDigits? Char.isDigit cs with
  | some ('0' :: _ :: _) => none
  | digits => digits

/-- The integer in another base that a word is. -/
def basedInt? (base : Nat) (cs : List Char) : Option Int := do
  let isDigit (c : Char) : Bool := (Json.hexValue? c).any (· < base)
  let digits ← plainDigits? isDigit cs
  return (digits.foldl (fun n c => n * base + (Json.hexValue? c).getD 0) 0 : Nat)

/-- The integer that a word is, if it fits 64 bits. -/
def int? (cs : List Char) : Option Int := do
  let n ← match cs with
    | '0' :: 'x' :: rest => basedInt? 16 rest
    | '0' :: 'o' :: rest => basedInt? 8 rest
    | '0' :: 'b' :: rest => basedInt? 2 rest
    | cs =>
      let (negative, body) := takeSign cs
      (wholeDigits? body).map fun digits =>
        let n : Int := (Nat.ofDigitChars 10 digits 0 : Nat)
        if negative then -n else n
  let fits ← Number.int64? n
  return fits.toInt

/-- The exponent after a mark. -/
def exponent? : List Char → Option Int
  | [] => some 0
  | c :: rest =>
    let (negative, body) := takeSign rest
    if c = 'e' ∨ c = 'E' then
      (plainDigits? Char.isDigit body).map fun digits =>
        let n : Int := (Nat.ofDigitChars 10 digits 0 : Nat)
        if negative then -n else n
    else none

/-- The floating-point number that digits with a fraction or an exponent write. -/
def unsignedFloat? (cs : List Char) : Option Float := do
  let isPart (c : Char) : Bool := c.isDigit || c == '_'
  let whole ← wholeDigits? (cs.takeWhile isPart)
  match cs.dropWhile isPart with
  | [] => none
  | '.' :: rest =>
    let fraction ← plainDigits? Char.isDigit (rest.takeWhile isPart)
    let e ← exponent? (rest.dropWhile isPart)
    return Number.nearestFloat (Nat.ofDigitChars 10 (whole ++ fraction) 0) (e - fraction.length)
  | rest => return Number.nearestFloat (Nat.ofDigitChars 10 whole 0) (← exponent? rest)

/-- The floating-point number that a word is. Written in digits it has to stay below infinity. -/
def float? (cs : List Char) : Option Float :=
  let (negative, body) := takeSign cs
  let signed (x : Float) : Float := if negative then -x else x
  if body = ['i', 'n', 'f'] then some (signed (1.0 / 0.0))
  else if body = ['n', 'a', 'n'] then some (signed (0.0 / 0.0))
  else ((unsignedFloat? body).map signed).filter (· != 1.0 / 0.0)

/-- What follows a time of day. -/
def afterTime? (cs : List Char) : Option (List Char) := do
  let (hour, cs) ← Calendar.number? 2 cs
  let cs ← Calendar.after? ':' cs
  let (minute, cs) ← Calendar.number? 2 cs
  let cs ← Calendar.after? ':' cs
  let (second, cs) ← Calendar.number? 2 cs
  let cs ← Calendar.fraction? cs
  if hour ≤ 23 ∧ minute ≤ 59 ∧ second ≤ 60 then return cs else none

/-- What follows a date. -/
def afterDate? (cs : List Char) : Option (List Char) := do
  let (year, cs) ← Calendar.number? 4 cs
  let (month, day, cs) ← Calendar.monthDay? cs
  if Calendar.isDate year month day then return cs else none

/-- Whether a word is a date, a time of day, or both; only both may have an offset. -/
def isMoment (cs : List Char) : Bool :=
  match afterDate? cs with
  | some [] => true
  | some (c :: rest) =>
    (c == 'T' || c == 't' || c == ' ') && match afterTime? rest with
      | some [] => true
      | some offset => (Calendar.offset? offset).isSome
      | none => false
  | none => afterTime? cs == some []

/-- A date or time as a value: an object that holds its text. -/
def momentJson (cs : List Char) : Json :=
  .object [("moment", .string (.ofList cs))]

/-- The value that a word stands for. -/
def word? (cs : List Char) : Option Json :=
  if cs = ['t', 'r', 'u', 'e'] then some (.bool true)
  else if cs = ['f', 'a', 'l', 's', 'e'] then some (.bool false)
  else if isMoment cs then some (momentJson cs)
  else ((int? cs).map .ofInt).or ((float? cs).map fun x => .number (.real x))

end Audience.Toml
