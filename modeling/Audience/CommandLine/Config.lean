import Audience.Formula.Render
import Audience.Json.Decode
import Audience.Mapping.Resolver
import Audience.Toml.Document

set_option autoImplicit false

/-! # Configuration

What a configuration file may set: options of the compiler, and where the mappings of values are.
Everything may be left out, and keys that mean nothing here are skipped. -/

namespace Audience.CommandLine

/-- What is configured. A budget is the time in milliseconds for asking the store; records are put
into the database, or into a store in memory when none is named. -/
structure Config where
  threshold : Float
  cacheCapacity : Nat
  cacheShards : Nat
  budget : Option Nat
  dialect : Dialect
  year : Option Int
  database : Option String
  records : List Mapping.Record

/-- What holds without a configuration file. -/
def Config.standard : Config where
  threshold := Mapping.defaultThreshold
  cacheCapacity := 4096
  cacheShards := 8
  budget := none
  dialect := .postgres
  year := none
  database := none
  records := []

/-- Why a configuration cannot be used. -/
inductive ConfigFault where
  | malformed
  | unknownDialect (name : String)

/-! ## The parts of a file -/

/-- A floating-point number, which may be written as an integer. -/
def decodeFloat : Json.Reading → Json.Decoded Float
  | .number (.integer n) => .ok (.ofInt n)
  | .number (.real x) => .ok x
  | r => Json.unexpected "f64" r

/-- Options of the compiler; the dialect is a text that is looked at later. -/
structure CompilerPart where
  config : Config
  dialect : Option String

/-- The fields that set options of the compiler. -/
def CompilerPart.record : Json.Record CompilerPart where
  name := "Compiler"
  fields := [.plain "fuzzy_threshold", .plain "cache_capacity", .plain "cache_shards",
    .plain "lookup_budget_ms", .plain "dialect", .plain "current_year"]
  start := ⟨.standard, none⟩
  add p name r :=
    match name with
    | "fuzzy_threshold" => do
      return { p with config := { p.config with threshold := ← decodeFloat r } }
    | "cache_capacity" => do
      return { p with config := { p.config with cacheCapacity := (← Json.decodeSize r).toNat } }
    | "cache_shards" => do
      return { p with config := { p.config with cacheShards := (← Json.decodeSize r).toNat } }
    | "lookup_budget_ms" => do
      return { p with config := { p.config with budget := some (← Json.decodeSize r).toNat } }
    | "dialect" => do return { p with dialect := some (← Json.decodeString r) }
    | _ => do
      let year ← Json.decodeBetween Int32.minValue.toInt Int32.maxValue.toInt "i32" r
      return { p with config := { p.config with year := some year } }

/-- The fields of a mapping of a value, all of which it needs. -/
def recordPart : Json.Record (Option String × Option String × Option String) where
  name := "Record"
  fields := [⟨"mapping_type", [], false⟩, ⟨"input_value", [], false⟩,
    ⟨"standard_value", [], false⟩]
  start := (none, none, none)
  add p name r := do
    let text ← Json.decodeString r
    match name with
    | "mapping_type" => return (some text, p.2)
    | "input_value" => return (p.1, some text, p.2.2)
    | _ => return (p.1, p.2.1, some text)

/-- A field that has to be there. -/
def required {α : Type} (name : String) : Option α → Json.Decoded α
  | some a => .ok a
  | none => Json.mismatch (.missingField name)

/-- A mapping of a value. -/
def decodeRecord (r : Json.Reading) : Json.Decoded Mapping.Record := do
  let (category, input, standard) ← recordPart.decodeRead r
  return ⟨← required "mapping_type" category, ← required "input_value" input,
    ← required "standard_value" standard⟩

/-- The fields that say where mappings are. -/
def mappingsPart : Json.Record (Option String × List Mapping.Record) where
  name := "Mappings"
  fields := [.plain "database", .plain "records"]
  start := (none, [])
  add p name r :=
    match name with
    | "database" => do return (some (← Json.decodeString r), p.2)
    | _ => do return (p.1, ← Json.decodeList decodeRecord r)

/-- The parts of a file. -/
def fileParts : Json.Record (CompilerPart × Option String × List Mapping.Record) where
  name := "Config"
  fields := [.plain "compiler", .plain "mappings"]
  start := (CompilerPart.record.start, none, [])
  add p name r :=
    match name with
    | "compiler" => do return (← CompilerPart.record.decodeRead r, p.2)
    | _ => do return (p.1, ← mappingsPart.decodeRead r)

/-- Read a configuration file. -/
def Config.parse (text : String) : Except ConfigFault Config :=
  match (Toml.parse text).map fun value => fileParts.decodeRead (.ofJson value) with
  | some (.ok (compiler, database, records)) =>
    let config := { compiler.config with database, records }
    match compiler.dialect with
    | none => .ok config
    | some name =>
      match Dialect.parse? name with
      | some dialect => .ok { config with dialect }
      | none => .error (.unknownDialect name)
  | _ => .error .malformed

end Audience.CommandLine
