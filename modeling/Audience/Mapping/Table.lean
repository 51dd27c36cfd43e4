import Audience.Mapping.Record

set_option autoImplicit false

/-! # Mappings in a database

A table of mappings with the category and the search key as its primary key. Every row has a number
that no row had before it and that it keeps when its standard value changes. Rows are kept in no
order of their own; a query that asks for one sorts them by number. -/

namespace Audience.Mapping

/-- A numbered row. -/
structure Row where
  id : Nat
  record : Record
  deriving DecidableEq

/-- A table of mappings and the number of its next row. -/
structure Table where
  rows : List Row
  next : Nat
  deriving DecidableEq

namespace Table

/-- A table without rows. -/
def empty : Table :=
  ⟨[], 1⟩

/-- Insert a record, or change the standard value of the row with its key. -/
def upsert (r : Record) (t : Table) : Table :=
  if t.rows.any (·.record.sameKey r) then
    { t with rows := t.rows.map fun row =>
        if row.record.sameKey r then { row with record := { row.record with standard := r.standard } }
        else row }
  else ⟨⟨t.next, r⟩ :: t.rows, t.next + 1⟩

/-- Upsert records in order, each under its search key. -/
def upsertAll (records : List Record) (t : Table) : Table :=
  records.foldl (fun t r => t.upsert r.folded) t

/-- The standard value of a key. -/
def exact (category input : String) (t : Table) : Option String :=
  (t.rows.find? fun row => row.record.category == category && row.record.input == input).map
    (·.record.standard)

/-- The records of a category by the numbers of their rows. -/
def allFor (category : String) (t : Table) : List Record :=
  ((t.rows.filter (·.record.category == category)).mergeSort fun a b => a.id ≤ b.id).map Row.record

/-- Whether some row of a category has a given standard value. -/
def hasStandard (category value : String) (t : Table) : Bool :=
  t.rows.any fun row => row.record.category == category && row.record.standard == value

/-- How many rows there are. -/
def count (t : Table) : Nat :=
  t.rows.length

end Table

end Audience.Mapping
