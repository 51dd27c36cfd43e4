import Audience.Text.Fold

set_option autoImplicit false

/-! # Value mappings

A mapping says which standard value a spelling stands for within a category. A collection keeps one
mapping for each category and search key, in the order in which the keys first came. -/

namespace Audience.Mapping

/-- A spelling and the standard value it stands for. -/
structure Record where
  category : String
  input : String
  standard : String
  deriving DecidableEq

/-- The record under the search key of its spelling. -/
def Record.folded (r : Record) : Record :=
  { r with input := Text.fold r.input }

/-- Whether two records are about the same spelling. -/
def Record.sameKey (r s : Record) : Bool :=
  r.category == s.category && r.input == s.input

/-- Put a record into a collection: in place of the one about the same spelling, or at the end. -/
def insert (r : Record) : List Record → List Record
  | [] => [r]
  | s :: rest => if s.sameKey r then { s with standard := r.standard } :: rest else s :: insert r rest

/-- The standard value of a search key in a category. -/
def find? (category input : String) (records : List Record) : Option String :=
  (records.find? fun r => r.category == category && r.input == input).map Record.standard

/-- The records of a category. -/
def ofCategory (category : String) (records : List Record) : List Record :=
  records.filter (·.category == category)

end Audience.Mapping
