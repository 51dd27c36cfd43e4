import Audience.Json.Decode
import Audience.Text.Ascii
import Audience.Text.Blank

set_option autoImplicit false

/-! # Terms of the criteria language

Event types, frequency qualifiers, time units and logic operators are closed lists of terms, each
with a code. A code is recognised in any case and with blanks around it, and one term of each list
stands in for whatever is not recognised. -/

namespace Audience

/-- A closed list of terms with their codes. -/
class Term (α : Type) where
  all : List α
  code : α → String
  fallback : α

namespace Term

/-- The term a text names. -/
def parse? {α : Type} [Term α] (raw : String) : Option α :=
  let name := Text.trimmed raw
  (all (α := α)).find? fun t => Text.sameIgnoringCase (code t) name

/-- The term a text names, or the one that stands in. -/
def parse {α : Type} [Term α] (raw : String) : α :=
  (parse? raw).getD fallback

end Term

/-- What an event has to have done. -/
inductive EventType where
  | performed
  | notPerformed
  | firstTime
  | lastTime
  deriving DecidableEq

instance : Term EventType where
  all := [.performed, .notPerformed, .firstTime, .lastTime]
  code
    | .performed => "performed"
    | .notPerformed => "not_performed"
    | .firstTime => "first_time"
    | .lastTime => "last_time"
  fallback := .performed

/-- How the number of events compares with a count. -/
inductive Qualifier where
  | atLeast
  | atMost
  | exactly
  deriving DecidableEq

instance : Term Qualifier where
  all := [.atLeast, .atMost, .exactly]
  code
    | .atLeast => "at_least"
    | .atMost => "at_most"
    | .exactly => "exactly"
  fallback := .atLeast

/-- The unit of a recency window. -/
inductive TimeUnit where
  | days
  | weeks
  | months
  deriving DecidableEq

instance : Term TimeUnit where
  all := [.days, .weeks, .months]
  code
    | .days => "days"
    | .weeks => "weeks"
    | .months => "months"
  fallback := .days

/-- How the conditions of a group are joined. -/
inductive Logic where
  | and
  | or
  deriving DecidableEq

instance : Inhabited Logic :=
  ⟨.and⟩

/-- A logic operator as it is written. -/
def Logic.name : Logic → String
  | .and => "AND"
  | .or => "OR"

/-- The logic operator a text names: anything but `or` means AND. -/
def Logic.parse (raw : String) : Logic :=
  if Text.sameIgnoringCase (Text.trimmed raw) "or" then .or else .and

/-- A logic operator in a document is any text. -/
def Logic.decode (r : Json.Reading) : Json.Decoded Logic := do
  return Logic.parse (← Json.decodeString r)

end Audience
