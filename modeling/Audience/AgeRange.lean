import Audience.Number.Integer

set_option autoImplicit false

/-! # Age ranges

Who is between two ages in a year was born between two dates: whoever is oldest no earlier than the
first day of one year, whoever is youngest no later than the last day of another. -/

namespace Audience

/-- The greatest age that counts as one. -/
def maxAge : Int := 150

/-- A year with at least four characters, its sign among them. -/
def yearText (year : Int) : List Char :=
  if year < 0 then '-' :: Number.padded 3 year.natAbs else Number.padded 4 year.natAbs

/-- The first and the last birth date of those who are between two ages in a year. The ages may come
in either order, and both have to be ages. -/
def birthDates? (year : Int) (a b : Int64) : Option (String × String) :=
  let youngest := min a.toInt b.toInt
  let oldest := max a.toInt b.toInt
  if youngest < 0 ∨ maxAge < oldest then none
  else some (.ofList (yearText (year - oldest) ++ "-01-01".toList),
    .ofList (yearText (year - youngest) ++ "-12-31".toList))

/-- The operator that asks for an age range. -/
def ageBetween : String := "age_between"

end Audience
