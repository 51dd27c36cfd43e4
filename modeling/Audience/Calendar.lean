import Audience.Number.Integer

set_option autoImplicit false

/-! # Dates and instants

Dates are written `YYYY-MM-DD`, where the year may have a sign, and have to exist in the proleptic
Gregorian calendar. Instants add a time of day and an offset; the sixtieth second exists only as the
last second of a month in universal time, where leap seconds are put in. -/

namespace Audience.Calendar

/-- Whether a year has a 29th of February. -/
def isLeap (year : Int) : Bool :=
  year % 4 == 0 && (year % 100 != 0 || year % 400 == 0)

/-- How many days a month has; none, if there is no such month. -/
def daysIn (year : Int) (month : Nat) : Nat :=
  match month with
  | 2 => if isLeap year then 29 else 28
  | 4 | 6 | 9 | 11 => 30
  | 1 | 3 | 5 | 7 | 8 | 10 | 12 => 31
  | _ => 0

/-- Whether a date exists. -/
def isDate (year : Int) (month day : Nat) : Bool :=
  1 ≤ day && day ≤ daysIn year month

/-- The number written with exactly `n` digits at the start of a text, and the rest. -/
def number? (n : Nat) (cs : List Char) : Option (Nat × List Char) :=
  let digits := cs.take n
  if digits.length = n then (Number.readNat? digits).map fun v => (v, cs.drop n) else none

/-- What follows a given character. -/
def after? (c : Char) : List Char → Option (List Char)
  | [] => none
  | d :: rest => if d = c then some rest else none

/-- A month and day after a year. -/
def monthDay? (cs : List Char) : Option (Nat × Nat × List Char) := do
  let cs ← after? '-' cs
  let (month, cs) ← number? 2 cs
  let cs ← after? '-' cs
  let (day, cs) ← number? 2 cs
  return (month, day, cs)

/-- Whether a text writes a date. -/
def isDateText (cs : List Char) : Bool :=
  let (negative, body) := match cs with
    | '-' :: rest => (true, rest)
    | '+' :: rest => (false, rest)
    | _ => (false, cs)
  let valid := do
    let (year, rest) ← number? 4 body
    let (month, day, rest) ← monthDay? rest
    let year : Int := if negative then -(year : Int) else year
    return rest.isEmpty && isDate year month day
  valid.getD false

/-- Drop a fraction of a second; a point has to be followed by a digit. -/
def fraction? (cs : List Char) : Option (List Char) :=
  match cs with
  | '.' :: d :: rest => if d.isDigit then some (rest.dropWhile Char.isDigit) else none
  | '.' :: [] => none
  | _ => some cs

/-- The minutes by which an offset is ahead of universal time. -/
def offset? (cs : List Char) : Option Int :=
  let hoursMinutes (rest : List Char) : Option Int := do
    let (hours, rest) ← number? 2 rest
    let rest ← after? ':' rest
    let (minutes, rest) ← number? 2 rest
    if rest.isEmpty && hours ≤ 23 && minutes ≤ 59 then return hours * 60 + minutes else none
  match cs with
  | ['Z'] => some 0
  | ['z'] => some 0
  | '+' :: rest => hoursMinutes rest
  | '-' :: rest => (hoursMinutes rest).map fun n => -n
  | _ => none

/-- Whether a local minute is the last of a month in universal time. The offset may carry it into the
day before or the day after. -/
def endsMonth (year : Int) (month day : Nat) (minute offset : Int) : Bool :=
  let instant := minute - offset
  let day' : Int := day + instant / 1440
  instant % 1440 == 1439 && (day' == 0 || day' == daysIn year month)

/-- Whether a text writes an instant. One character, whatever it is, stands between the date and the
time; it has to be one of those that take one byte. -/
def isInstantText (cs : List Char) : Bool :=
  let valid := do
    let (year, rest) ← number? 4 cs
    let (month, day, rest) ← monthDay? rest
    let (separator, rest) ← match rest with
      | c :: rest => some (c, rest)
      | [] => none
    let (hour, rest) ← number? 2 rest
    let rest ← after? ':' rest
    let (minute, rest) ← number? 2 rest
    let rest ← after? ':' rest
    let (second, rest) ← number? 2 rest
    let rest ← fraction? rest
    let offset ← offset? rest
    return separator.toNat < 0x80 && isDate year month day && hour ≤ 23 && minute ≤ 59
      && (second ≤ 59 || second == 60 && endsMonth year month day (hour * 60 + minute) offset)
  valid.getD false

end Audience.Calendar
