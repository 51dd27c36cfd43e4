import Audience.Mapping.Table

set_option autoImplicit false

/-! # Stores of mappings

A store answers three questions about a category: the standard value of a search key, all records in
order, and whether a value is a standard value. Looking for keys and listing records may each be out
of order, and then there is a reason instead of an answer. -/

namespace Audience.Mapping

/-- Where the records of a store are kept. -/
inductive Backing where
  | memory (records : List Record)
  | database (table : Table)

/-- Why a store gives no answer. -/
structure Outage where
  reason : String
  deriving DecidableEq

/-- The words for an outage. -/
def Outage.message (o : Outage) : String :=
  s!"mapping store unavailable: {o.reason}"

/-- A store, and what is out of order in it. -/
structure Store where
  backing : Backing
  exactOutage : Option Outage
  listOutage : Option Outage

namespace Store

/-- A store in memory without records. -/
def empty : Store :=
  ⟨.memory [], none, none⟩

/-- An answer, unless there is an outage. -/
def answering {α : Type} (outage : Option Outage) (answer : α) : Except Outage α :=
  match outage with
  | some o => .error o
  | none => .ok answer

/-- Put a record into the store under its search key. -/
def insert (r : Record) (s : Store) : Store :=
  match s.backing with
  | .memory records => { s with backing := .memory (Mapping.insert r.folded records) }
  | .database table => { s with backing := .database (table.upsert r.folded) }

/-- Put records into the store in order. -/
def insertAll (records : List Record) (s : Store) : Store :=
  records.foldl (fun s r => s.insert r) s

/-- How many records the store holds. -/
def size (s : Store) : Nat :=
  match s.backing with
  | .memory records => records.length
  | .database table => table.count

/-- The standard value of a search key. -/
def exact (category input : String) (s : Store) : Except Outage (Option String) :=
  answering s.exactOutage <| match s.backing with
    | .memory records => find? category input records
    | .database table => table.exact category input

/-- The records of a category in the order in which their keys first came. -/
def allFor (category : String) (s : Store) : Except Outage (List Record) :=
  answering s.listOutage <| match s.backing with
    | .memory records => ofCategory category records
    | .database table => table.allFor category

/-- Whether a value is the standard value of some record. A store in memory lists its records to find
out. -/
def hasStandard (category value : String) (s : Store) : Except Outage Bool :=
  match s.backing with
  | .memory _ => do return (← s.allFor category).any (·.standard == value)
  | .database table => answering s.listOutage (table.hasStandard category value)

end Store

end Audience.Mapping
