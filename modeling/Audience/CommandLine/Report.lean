import Audience.Explain
import Audience.Formula.Render
import Audience.Json.Printer
import Audience.Text.Blank
import Audience.Text.Split

set_option autoImplicit false

/-! # Reports

Results for a reader: headings with what stands beneath them, line by line. -/

namespace Audience.CommandLine

/-- A heading. -/
def heading (title : String) : String :=
  s!"▸ {title}"

/-- A heading with names and values on its line. -/
def summary (title : String) (pairs : List (String × String)) : String :=
  "  ".intercalate (heading title :: pairs.map fun p => p.1 ++ "=" ++ p.2)

/-- A number at the end of a column of three characters. -/
def column (n : Nat) : String :=
  let digits := Number.natText n
  .ofList (List.replicate (3 - digits.length) ' ' ++ digits)

/-- Entries with the numbers from `n` on. -/
def numberedFrom (n : Nat) : List String → List String
  | [] => []
  | entry :: rest => s!"{column n}. {entry}" :: numberedFrom (n + 1) rest

/-- A heading with numbered entries. -/
def numbered (title : String) (entries : List String) : List String :=
  heading title :: if entries.isEmpty then ["    (none)"] else numberedFrom 1 entries

/-- A heading with a text beneath it, indented and without blank lines. -/
def block (title : String) (text : String) : List String :=
  let lines := (Text.splitAt '\n' text.toList).filter (!·.all Text.isBlank)
  heading title :: lines.map fun line => .ofList (' ' :: ' ' :: Text.trimEnd line)

/-- A stored segment in words. -/
def segmentReport (t : Stored.Tree) : List String :=
  summary "Segment" [("root", t.logic.name), ("size", .ofList (Number.natText t.size.toNat))]
    :: numbered "Conditions" (t.conditions.map (·.describe))
    ++ t.groups.flatMap fun g =>
      let n := String.ofList (Number.natText g.id.toNat)
      numbered s!"Group {n} ({g.logic.name})" (g.conditions.map (·.describe))

/-- The statement of a predicate: the condition alone, or the selection of all customers. -/
def statementOf (select : Bool) (p : Predicate) : String :=
  if select then p.select else p.sql

/-- A predicate and its parameters. -/
def predicateReport (select : Bool) (p : Predicate) : List String :=
  summary "SQL" [("dialect", p.dialect.name)]
    :: block "Predicate" (statementOf select p)
    ++ numbered "Parameters" (p.params.map (·.toJson.compact))

/-- A predicate and its parameters as JSON. -/
def predicateJson (select : Bool) (p : Predicate) : Json :=
  .object [
    ("dialect", .string p.dialect.name),
    ("sql", .string (statementOf select p)),
    ("params", .array (p.params.map (·.toJson))),
    ("inline", .string p.inline)]

end Audience.CommandLine
