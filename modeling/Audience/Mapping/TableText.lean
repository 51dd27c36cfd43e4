import Audience.Json.Printer
import Audience.Json.Reading
import Audience.Mapping.Table

set_option autoImplicit false

/-! # Tables as texts

A table is kept in a file as an array of its rows, each of them an array too: the number of the row
and the three texts of its record. An empty text is a table without rows. -/

namespace Audience.Mapping

/-- A row as JSON. -/
def Row.toJson (row : Row) : Json :=
  .array [.ofInt row.id, .string row.record.category, .string row.record.input,
    .string row.record.standard]

/-- The row that a value stands for. -/
def Row.ofJson? : Json → Option Row
  | .array [.number (.integer id), .string category, .string input, .string standard] =>
    if 0 < id then some ⟨id.toNat, ⟨category, input, standard⟩⟩ else none
  | _ => none

/-- The text of a table. -/
def Table.text (t : Table) : String :=
  (Json.array (t.rows.map Row.toJson)).compact

/-- The table that a text stands for. Its next row comes after all others. -/
def Table.ofText? (text : String) : Option Table :=
  if text.isEmpty then some .empty
  else match Json.parse text with
    | .ok (.array items) =>
      (items.mapM Row.ofJson?).map fun rows =>
        ⟨rows, rows.foldl (fun next row => max next (row.id + 1)) 1⟩
    | _ => none

end Audience.Mapping
