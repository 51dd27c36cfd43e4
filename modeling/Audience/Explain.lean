import Audience.Catalog
import Audience.Number.Integer
import Audience.Stored.Basic

set_option autoImplicit false

/-! # Segments in words

What a stored segment asks for, as a sentence for people who look it over. -/

namespace Audience

/-- A text with underscores turned into spaces. -/
def spaced (s : String) : String :=
  .ofList (s.toList.map fun c => if c = '_' then ' ' else c)

/-- The operator of a condition in words: its label if it is known for the column. -/
def Stored.Attribute.operatorWords (a : Stored.Attribute) : String :=
  match (Catalog.fieldType a.dataset a.column).operator? a.operator with
  | some op => Text.asciiLowered op.label
  | none => spaced a.operator

/-- The operators that take no value. -/
def isUnary (operator : String) : Bool :=
  ["is_null", "is_not_null", "is_true", "is_false", "is_empty", "is_not_empty"].contains operator

/-- A condition on a column in words. -/
def Stored.Attribute.describe (a : Stored.Attribute) : String :=
  if isUnary a.operator then s!"{a.column} {a.operatorWords}"
  else if a.operator = "between" then s!"{a.column} {a.operatorWords} {a.value} and {a.value2}"
  else s!"{a.column} {a.operatorWords} {a.value}"

/-- A unit for one: without its plural ending. -/
def singular (unit : String) : String :=
  match unit.toList.reverse with
  | 's' :: rest => .ofList rest.reverse
  | _ => unit

/-- A stretch of time in words. -/
def lastWords (unit : String) (length : Int64) : String :=
  let word := if length = 1 then singular unit else unit
  s!" in the last {Number.int64Text length} {word}"

/-- The stretch of time of an event in words, if it has a unit and a length. -/
def Stored.Event.windowWords (e : Stored.Event) : String :=
  match e.unit, e.length with
  | some unit, some length => lastWords unit length
  | _, _ => ""

/-- The conditions on the columns of an event in words. -/
def Stored.Event.attributeWords (e : Stored.Event) : String :=
  if e.attributes.isEmpty then ""
  else " with " ++ " and ".intercalate (e.attributes.map (·.describe))

/-- What an event has to have done, in words. -/
def Stored.Event.happening (e : Stored.Event) : String :=
  match (Term.parse e.type : EventType) with
  | .performed =>
    let qualifier := spaced (Term.code (Term.parse e.qualifier : Qualifier))
    let times := if e.count = 1 then "time" else "times"
    s!"{e.name} performed {qualifier} {Number.int64Text e.count} {times}"
  | .notPerformed => s!"{e.name} not performed"
  | .firstTime => s!"{e.name} first performed"
  | .lastTime => s!"{e.name} last performed"

/-- A condition on events in words. -/
def Stored.Event.describe (e : Stored.Event) : String :=
  e.happening ++ e.windowWords ++ e.attributeWords

/-- A condition in words. -/
def Stored.Condition.describe : Stored.Condition → String
  | .attribute a => a.describe
  | .event e => e.describe

/-- Descriptions joined by a logic operator. -/
def joinWords (logic : Logic) (parts : List String) : String :=
  (" " ++ logic.name ++ " ").intercalate parts

/-- A group in words: nothing without members, and in parentheses if it has several. -/
def Stored.Group.describe (g : Stored.Group) : Option String :=
  match g.conditions with
  | [] => none
  | [c] => some c.describe
  | cs => some ("(" ++ joinWords g.logic (cs.map (·.describe)) ++ ")")

/-- A segment in words. -/
def Stored.Tree.describe (t : Stored.Tree) : String :=
  let parts := t.conditions.map (·.describe) ++ t.groups.filterMap (·.describe)
  if parts.isEmpty then "all customers" else joinWords t.logic parts

end Audience
