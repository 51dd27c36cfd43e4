import Audience.CommandLine.Arguments
import Audience.CommandLine.Config
import Audience.CommandLine.Host
import Audience.CommandLine.Report
import Audience.Compiler.Basic
import Audience.Criteria.Writer
import Audience.Stored.Reader
import Audience.Stored.Writer

set_option autoImplicit false

/-! # Running commands

A request is carried out in a fixed order: the configuration is read, the store is opened and takes
up the configured records, and only then the input is read. The first thing that goes wrong ends the
run. -/

namespace Audience.CommandLine

/-! ## Failures -/

/-- What may go wrong in a run. -/
inductive Failure where
  | unreadableConfig (path : String) (fault : FileFault)
  | malformedConfig (path : String)
  | unknownDialect (name : String)
  | store (path : String) (fault : DatabaseFault)
  | file (fault : FileFault)
  | document (e : Json.DecodeError)
  | sql (e : CompileError)

/-- The words for a document that cannot be used. -/
def documentMessage : Json.DecodeError → String
  | .fault .malformed => "malformed JSON"
  | .fault .cutShort => "unexpected end of JSON"
  | .mismatch m => m.message

/-- The words for a failure. -/
def Failure.message : Failure → String
  | .unreadableConfig path fault => s!"failed to read config {path}: {fault.message}"
  | .malformedConfig path => s!"failed to parse config {path}"
  | .unknownDialect name => s!"dialect '{name}' is invalid (expected postgres or sqlite)"
  | .store path fault =>
    s!"failed to open mapping store {path}: sqlite error: {fault.message path}"
  | .file fault => fault.message
  | .document e => documentMessage e
  | .sql e => e.message

/-- What comes of a run: lines to be printed, a failure, or a refusal of the arguments. -/
inductive Outcome where
  | printed (lines : List String)
  | failed (f : Failure)
  | refused

/-- The exit code of a run. -/
def Outcome.exitCode : Outcome → UInt32
  | .printed _ => 0
  | .failed _ => 1
  | .refused => 2

/-- What a run prints to standard output. -/
def Outcome.output : Outcome → String
  | .printed lines => .join (lines.map (· ++ "\n"))
  | _ => ""

/-! ## Steps -/

section Steps

variable {m : Type → Type} [Monad m]

/-- A step of a run on a host. -/
abbrev Step (m : Type → Type) := ExceptT Failure m

/-- The outcome of something done by the host. -/
def attempt {α ε : Type} (failure : ε → Failure) (action : m (Except ε α)) : Step m α := do
  match ← action with
  | .ok a => return a
  | .error e => throw (failure e)

/-- The configuration in the file that is named, if there is one. -/
def loadConfig (host : Host m) : Option String → Step m Config
  | none => return .standard
  | some path => do
    match ← host.readFile path with
    | .error fault =>
      if fault.isAbsence then return .standard else throw (.unreadableConfig path fault)
    | .ok text =>
      match Config.parse text with
      | .ok config => return config
      | .error .malformed => throw (.malformedConfig path)
      | .error (.unknownDialect name) => throw (.unknownDialect name)

/-- Whether a database of this name lives in memory only. -/
def isFleeting (path : String) : Bool :=
  path.isEmpty || path == ":memory:"

/-- The store with the configured records. -/
def openStore (host : Host m) (config : Config) : Step m Mapping.Store :=
  match config.database with
  | none => return .insertAll config.records .empty
  | some path => do
    let table ←
      if isFleeting path then pure .empty else attempt (.store path) (host.openDatabase path)
    let table := table.upsertAll config.records
    if !isFleeting path then host.saveDatabase path table
    return ⟨.database table, none, none⟩

/-- The options of the compiler. Looking something up takes no time here, so a budget is used up only
when there is none at all. -/
def optionsOf (config : Config) (dialect : Option Dialect) (year : Int) : Options where
  threshold := config.threshold
  cacheCapacity := config.cacheCapacity
  cacheShards := config.cacheShards
  deadline := if config.budget = some 0 then .passed else .none
  dialect := dialect.getD config.dialect
  year

/-- The text of a source. -/
def readSource (host : Host m) : Source → Step m String
  | .standardInput => host.standardInput
  | .file path => attempt .file (host.readFile path)

/-- The JSON value of a source. -/
def readJson (host : Host m) (source : Source) : Step m Json := do
  match Json.parse (← readSource host source) with
  | .ok value => return value
  | .error fault => throw (.document (.fault fault))

/-- The stored segment of a source. -/
def readStored (host : Host m) (source : Source) : Step m Stored.Tree := do
  match Stored.Tree.parse (← readSource host source) with
  | .ok t => return t
  | .error e => throw (.document e)

/-- A result in the format asked for. -/
def present (format : Format) (json : Json) (lines : List String) : List String :=
  match format with
  | .text => lines
  | .json => [json.pretty]

/-- Run the compiler once, with a cache of its own. -/
def once {α : Type} (c : Compiler) (action : StateM Mapping.Cache α) : α :=
  (action (Compiler.cacheOf c.options)).1

/-- Carry out a command. -/
def perform (host : Host m) (c : Compiler) (format : Format) : Command → Step m (List String)
  | .extract text =>
    let entities := (Sentence.entities text).map (·.toJson)
    return present format (.array entities) (numbered "Entities" (entities.map Json.compact))
  | .compile text =>
    let t := once c (c.compileText text)
    return present format t.toJson (segmentReport t)
  | .normalize source => do
    let t := once c (c.normalize (.ofJson (← readJson host source)))
    return [t.toJson.pretty]
  | .canonicalize source => do
    let t := Stored.Tree.ofCriteria (.ofJson (← readJson host source))
    return present format t.toJson (segmentReport t)
  | .sql source select => do
    match c.compileSql (← readStored host source) with
    | .ok p => return present format (predicateJson select p) (predicateReport select p)
    | .error e => throw (.sql e)
  | .explain source => do
    let t ← readStored host source
    return present format (.object [("description", .string t.describe)]) [t.describe]

/-- Carry out a request. -/
def carryOut (host : Host m) (r : Request) : Step m (List String) := do
  let config ← loadConfig host (r.config.or host.usualConfig)
  let store ← openStore host config
  let year ← match r.year.or config.year with
    | some year => pure year
    | none => host.year
  perform host (.new store "" (optionsOf config r.dialect year)) r.format r.command

end Steps

/-! ## Runs -/

/-- The name and the version of the program. -/
def versionLine : String :=
  "segc 0.4.0"

/-- How the program is called. -/
def helpLines : List String := [
  "Compile customer-segment criteria into canonical trees and SQL",
  "",
  "Usage: segc [OPTIONS] <COMMAND>",
  "",
  "Commands:",
  "  extract TEXT         Show the raw entities found in a sentence",
  "  compile TEXT         Compile a sentence into a storage tree",
  "  normalize [FILE]     Validate and standardize a criteria tree (JSON)",
  "  canonicalize [FILE]  Flatten a criteria tree (JSON) into a storage tree",
  "  sql [FILE]           Compile a storage tree (JSON) into a SQL predicate",
  "  explain [FILE]       Describe a storage tree (JSON) in words",
  "",
  "Options:",
  "  --format <FORMAT>    Output format: text or json",
  "  --config <PATH>      Config file",
  "  --dialect <DIALECT>  SQL dialect: postgres or sqlite",
  "  --year <YEAR>        Reference year for age ranges",
  "  --select             With sql: wrap the predicate in a full SELECT over customers"]

/-- Run the program with its arguments on a host. -/
def run {m : Type → Type} [Monad m] (host : Host m) (arguments : List String) : m Outcome :=
  match Request.ofArguments host.namedConfig arguments with
  | .error .help => return .printed helpLines
  | .error .version => return .printed [versionLine]
  | .error .refused => return .refused
  | .ok request => do
    match ← (carryOut host request).run with
    | .ok lines => return .printed lines
    | .error f => return .failed f

end Audience.CommandLine
