import Audience.Formula.Render
import Audience.Number.Integer

set_option autoImplicit false

/-! # Arguments

A command is named among the arguments. Options may come before it or after it, and what is given
after it counts; on either side an option may be given only once. An option takes its value from the
same argument, after an equals sign, or from the next one. After a double dash everything is plain
text. -/

namespace Audience.CommandLine

/-- How results are written. -/
inductive Format where
  | text
  | json
  deriving DecidableEq

/-- The names of commands. -/
inductive Verb where
  | extract
  | compile
  | normalize
  | canonicalize
  | sql
  | explain
  deriving DecidableEq

/-- The command of a given name. -/
def Verb.ofName? (name : String) : Option Verb :=
  match name with
  | "extract" => some .extract
  | "compile" => some .compile
  | "normalize" => some .normalize
  | "canonicalize" => some .canonicalize
  | "sql" => some .sql
  | "explain" => some .explain
  | _ => none

/-- Where a command takes its input from. -/
inductive Source where
  | standardInput
  | file (path : String)
  deriving DecidableEq

/-- The source that an argument names. -/
def Source.ofText (text : String) : Source :=
  if text = "-" then .standardInput else .file text

/-- What is to be done. -/
inductive Command where
  | extract (text : String)
  | compile (text : String)
  | normalize (source : Source)
  | canonicalize (source : Source)
  | sql (source : Source) (select : Bool)
  | explain (source : Source)
  deriving DecidableEq

/-- What the arguments ask for. -/
structure Request where
  format : Format
  config : Option String
  dialect : Option Dialect
  year : Option Int
  command : Command

/-- Why arguments are no request: they ask for help or for the version, or they make no sense. -/
inductive Stop where
  | help
  | version
  | refused
  deriving DecidableEq

/-! ## Options -/

/-- The names of options that take a value. -/
inductive OptionName where
  | format
  | config
  | dialect
  | year
  deriving DecidableEq

/-- The option of a given name. -/
def OptionName.ofName? (name : String) : Option OptionName :=
  match name with
  | "format" => some .format
  | "config" => some .config
  | "dialect" => some .dialect
  | "year" => some .year
  | _ => none

/-- What was given on one side of the command. -/
structure Side where
  format : Option Format
  config : Option String
  dialect : Option Dialect
  year : Option Int

/-- Nothing was given. -/
def Side.empty : Side :=
  ⟨none, none, none, none⟩

/-- Refuse what is missing. -/
def orRefuse {α : Type} : Option α → Except Stop α
  | some a => .ok a
  | none => .error .refused

/-- Refuse what does not hold. -/
def insist (condition : Bool) : Except Stop Unit :=
  if condition then .ok () else .error .refused

/-- The year that a text writes. -/
def readYear? (text : String) : Option Int :=
  (Number.readInt64? text.toList).bind fun n =>
    if Int32.minValue.toInt ≤ n.toInt ∧ n.toInt ≤ Int32.maxValue.toInt then some n.toInt else none

/-- Give an option its value, unless it has one. -/
def Side.set (name : OptionName) (value : String) (s : Side) : Except Stop Side :=
  match name with
  | .format => do
    insist s.format.isNone
    match value with
    | "text" => return { s with format := some .text }
    | "json" => return { s with format := some .json }
    | _ => throw .refused
  | .config => do
    insist (s.config.isNone && !value.isEmpty)
    return { s with config := some value }
  | .dialect => do
    insist s.dialect.isNone
    let dialect ← orRefuse ([Dialect.postgres, Dialect.sqlite].find? (·.name == value))
    return { s with dialect := some dialect }
  | .year => do
    insist s.year.isNone
    return { s with year := some (← orRefuse (readYear? value)) }

/-! ## Reading arguments -/

/-- How far arguments were read: the options before the command, the command, the options after it,
its operand and flag, an option that waits for its value, and whether all that follows is plain
text. -/
structure Progress where
  before : Side
  verb : Option Verb
  after : Side
  operand : Option String
  select : Bool
  waiting : Option OptionName
  plain : Bool

/-- The forms of arguments. -/
inductive Argument where
  | separator
  | long (name : String) (value : Option String)
  | short (letter : Char)
  | plain (text : String)

/-- The form of an argument. A single dash is plain text. -/
def Argument.ofText (text : String) : Argument :=
  match text.toList with
  | ['-', '-'] => .separator
  | '-' :: '-' :: cs =>
    let value := match cs.dropWhile (· != '=') with
      | '=' :: value => some (String.ofList value)
      | _ => none
    .long (.ofList (cs.takeWhile (· != '='))) value
  | '-' :: c :: _ => .short c
  | _ => .plain text

namespace Progress

/-- Nothing was read. -/
def start : Progress :=
  ⟨.empty, none, .empty, none, false, none, false⟩

/-- Give an option its value on the side that was reached. -/
def set (name : OptionName) (value : String) (p : Progress) : Except Stop Progress :=
  match p.verb with
  | none => do return { p with before := ← p.before.set name value, waiting := none }
  | some _ => do return { p with after := ← p.after.set name value, waiting := none }

/-- Take plain text: the name of the command first, and after it the one operand. -/
def takeText (text : String) (p : Progress) : Except Stop Progress :=
  match p.verb with
  | none => do
    insist !p.plain
    return { p with verb := some (← orRefuse (Verb.ofName? text)) }
  | some _ => do
    insist p.operand.isNone
    return { p with operand := some text }

/-- Take an option by its full name. -/
def takeLong (name : String) (value : Option String) (p : Progress) : Except Stop Progress :=
  match OptionName.ofName? name, value with
  | some option, some value => p.set option value
  | some option, none => .ok { p with waiting := some option }
  | none, some _ => .error .refused
  | none, none =>
    if name = "help" then .error .help
    else if name = "version" ∧ p.verb = none then .error .version
    else if name = "select" ∧ p.verb = some .sql ∧ !p.select then .ok { p with select := true }
    else .error .refused

/-- Take an option by its letter. -/
def takeShort (letter : Char) (p : Progress) : Except Stop Progress :=
  if letter = 'h' then .error .help
  else if letter = 'V' ∧ p.verb = none then .error .version
  else .error .refused

/-- Take one more argument. -/
def take (p : Progress) (text : String) : Except Stop Progress :=
  if p.plain then p.takeText text
  else match Argument.ofText text, p.waiting with
    | .plain text, some option => p.set option text
    | .plain text, none => p.takeText text
    | _, some _ => .error .refused
    | .separator, none => .ok { p with plain := true }
    | .long name value, none => p.takeLong name value
    | .short letter, none => p.takeShort letter

/-- The command with its operand. Without a text there is nothing to compile, but input comes from
standard input unless a file is named. -/
def command? (p : Progress) : Option Command :=
  let source := Source.ofText (p.operand.getD "-")
  match p.verb with
  | none => none
  | some .extract => p.operand.map .extract
  | some .compile => p.operand.map .compile
  | some .normalize => some (.normalize source)
  | some .canonicalize => some (.canonicalize source)
  | some .sql => some (.sql source p.select)
  | some .explain => some (.explain source)

end Progress

/-- Read arguments. The environment may name a configuration file; it then stands in for the option
on either side, so an empty name is refused unless the option is given on both. -/
def Request.ofArguments (environment : Option String) (arguments : List String) :
    Except Stop Request := do
  let p ← arguments.foldlM Progress.take .start
  insist p.waiting.isNone
  let command ← orRefuse p.command?
  insist (environment != some "" || p.before.config.isSome && p.after.config.isSome)
  return {
    format := (p.after.format.or p.before.format).getD .text
    config := (p.after.config.or p.before.config).or environment
    dialect := p.after.dialect.or p.before.dialect
    year := p.after.year.or p.before.year
    command }

end Audience.CommandLine
