import Audience.Json.Reading
import Audience.Number.Text
import Audience.Text.Quoted

set_option autoImplicit false

/-! # Decoding JSON by type

A decoder takes a reading apart in reading order and stops at the first thing that is wrong: a fault
of the text, or a value of the wrong shape. Records are given as objects or as arrays of their
fields in order; members that belong to no field are skipped. -/

namespace Audience.Json

/-! ## Errors -/

/-- What stands where something else was expected. -/
inductive Found where
  | null
  | bool (b : Bool)
  | number (n : Number)
  | string (s : String)
  | sequence
  | map

/-- How a well-formed text fails to have the shape asked for. -/
inductive Mismatch where
  | type (found : Found) (expected : String)
  | range (found : Found) (expected : String)
  | length (length : Nat) (expected : String)
  | missingField (name : String)
  | duplicateField (name : String)
  | unknownVariant (name : String) (known : List String)
  | noVariant (choice : String)
  | refused (reason : String)

/-- Why a text could not be decoded. -/
inductive DecodeError where
  | fault (f : Fault)
  | mismatch (m : Mismatch)

/-- A name or value as it is marked off in messages. -/
def ticked (name : String) : String :=
  "`" ++ name ++ "`"

/-- A found value in words. -/
def Found.describe : Found → String
  | .null => "null"
  | .bool b => "boolean " ++ ticked (if b then "true" else "false")
  | .number (.integer n) => "integer " ++ ticked (.ofList (Number.intText n))
  | .number (.real x) => "floating point " ++ ticked (.ofList (Number.jsonText x))
  | .string s => s!"string {Text.quoted s}"
  | .sequence => "sequence"
  | .map => "map"

/-- Known variants, joined for a message. -/
def oneOf (known : List String) : String :=
  match known.map ticked with
  | [a] => a
  | [a, b] => s!"{a} or {b}"
  | names => "one of " ++ ", ".intercalate names

/-- The words for a mismatch. -/
def Mismatch.message : Mismatch → String
  | .type found expected => s!"invalid type: {found.describe}, expected {expected}"
  | .range found expected => s!"invalid value: {found.describe}, expected {expected}"
  | .length n expected => s!"invalid length {n}, expected {expected}"
  | .missingField name => s!"missing field {ticked name}"
  | .duplicateField name => s!"duplicate field {ticked name}"
  | .unknownVariant name known => s!"unknown variant {ticked name}, expected {oneOf known}"
  | .noVariant choice => s!"data did not match any variant of untagged enum {choice}"
  | .refused reason => reason

/-- The outcome of decoding. -/
abbrev Decoded := Except DecodeError

/-- Decoding stops at a fault of the text. -/
def ofFault {α : Type} : Except Fault α → Decoded α
  | .ok a => .ok a
  | .error f => .error (.fault f)

/-- Decoding stops at a mismatch. -/
def mismatch {α : Type} (m : Mismatch) : Decoded α :=
  .error (.mismatch m)

/-- Decoding goes on unless a part ends at a fault. -/
def atEnd : Option Fault → Decoded Unit
  | none => .ok ()
  | some f => .error (.fault f)

/-- Refuse a value because of its type. A container is known by its bracket; anything else has to
be read first. -/
def unexpected {α : Type} (expected : String) : Reading → Decoded α
  | .null => mismatch (.type .null expected)
  | .bool b => mismatch (.type (.bool b) expected)
  | .number n => mismatch (.type (.number n) expected)
  | .string s => mismatch (.type (.string s) expected)
  | .unreadable whenRead _ => .error (.fault whenRead)
  | .array _ _ => mismatch (.type .sequence expected)
  | .object _ _ => mismatch (.type .map expected)

/-! ## Scalars and lists -/

/-- A string. -/
def decodeString : Reading → Decoded String
  | .string s => .ok s
  | r => unexpected "a string" r

/-- A truth value. -/
def decodeBool : Reading → Decoded Bool
  | .bool b => .ok b
  | r => unexpected "a boolean" r

/-- An integer between two bounds. -/
def decodeBetween (low high : Int) (expected : String) : Reading → Decoded Int
  | .number (.integer n) =>
    if low ≤ n ∧ n ≤ high then .ok n else mismatch (.range (.number (.integer n)) expected)
  | r => unexpected expected r

/-- A 64-bit integer. -/
def decodeInt64 (r : Reading) : Decoded Int64 := do
  let n ← decodeBetween Int64.minValue.toInt Int64.maxValue.toInt "i64" r
  return .ofInt n

/-- A number that fits 32 bits and has no sign. -/
def decodeUInt32 (r : Reading) : Decoded UInt32 := do
  let n ← decodeBetween 0 (UInt32.size - 1) "u32" r
  return .ofNat n.toNat

/-- A size. -/
def decodeSize (r : Reading) : Decoded UInt64 := do
  let n ← decodeBetween 0 (UInt64.size - 1) "usize" r
  return .ofNat n.toNat

/-- A value that may be null. -/
def decodeOption {α : Type} (decode : Reading → Decoded α) : Reading → Decoded (Option α)
  | .null => .ok none
  | r => (decode r).map some

/-- Any value at all, with room for so many containers. -/
def decodeAny (room : Nat) (r : Reading) : Decoded Json :=
  ofFault (r.toJson room)

/-- Items in reading order. -/
def decodeItems {α : Type} (decode : Reading → Decoded α) : List Reading → Decoded (List α)
  | [] => .ok []
  | r :: rest => do
    let value ← decode r
    let values ← decodeItems decode rest
    return value :: values

/-- A list of values of one kind. -/
def decodeList {α : Type} (decode : Reading → Decoded α) : Reading → Decoded (List α)
  | .array items ending => do
    let values ← decodeItems decode items
    atEnd ending
    return values
  | r => unexpected "a sequence" r

/-! ## Records -/

/-- A field of a record. In an array a field may be left out at the end only if it has a default
there. -/
structure Field where
  name : String
  aliases : List String
  defaulted : Bool

/-- A field with a default and no other name. -/
def Field.plain (name : String) : Field :=
  ⟨name, [], true⟩

/-- Whether a key names this field. -/
def Field.answersTo (f : Field) (key : String) : Bool :=
  f.name == key || f.aliases.contains key

/-- How a record is built up: its name, its fields in order, and what a field adds to what was
decoded before. -/
structure Record (σ : Type) where
  name : String
  fields : List Field
  start : σ
  add : σ → String → Reading → Decoded σ

/-- Decode members in reading order; `seen` holds the fields that were given already. -/
def Record.members {σ : Type} (record : Record σ) (state : σ) (seen : List String) :
    List (Except Fault String × Reading) → Decoded σ
  | [] => .ok state
  | (key, value) :: rest => do
    let key ← ofFault key
    match record.fields.find? (·.answersTo key) with
    | none => record.members state seen rest
    | some field =>
      if seen.contains field.name then mismatch (.duplicateField field.name)
      else do
        let state ← record.add state field.name value
        record.members state (field.name :: seen) rest

/-- Decode items as the fields in order. -/
def Record.items {σ : Type} (record : Record σ) (state : σ) :
    List Field → List Reading → Decoded σ
  | field :: fields, r :: rest => do
    let state ← record.add state field.name r
    record.items state fields rest
  | _, _ => .ok state

/-- A count with its noun. -/
def elements (n : Nat) : String :=
  if n = 1 then "1 element" else s!"{n} elements"

/-- Refuse an array that ends before a field without a default. -/
def Record.checkLength {σ : Type} (record : Record σ) (length : Nat) : Decoded Unit :=
  match (record.fields.drop length).findIdx? (!·.defaulted) with
  | none => .ok ()
  | some i => mismatch (.length (length + i)
      s!"struct {record.name} with {elements record.fields.length}")

/-- Decode a record. What to say of an array with items left over depends on where the record comes
from, and is given as an error made from the number of items. -/
def Record.decodeWith {σ : Type} (record : Record σ) (leftOver : Nat → DecodeError) :
    Reading → Decoded σ
  | .object members ending => do
    let state ← record.members record.start [] members
    atEnd ending
    return state
  | .array items ending => do
    let state ← record.items record.start record.fields items
    if record.fields.length < items.length then .error (leftOver items.length)
    else do
      atEnd ending
      record.checkLength items.length
      return state
  | r => unexpected s!"struct {record.name}" r

/-- Decode a record out of a text, where an array has to end with its last field. -/
def Record.decode {σ : Type} (record : Record σ) (r : Reading) : Decoded σ :=
  record.decodeWith (fun _ => .fault .malformed) r

/-- Decode a record out of a value that was read before. -/
def Record.decodeRead {σ : Type} (record : Record σ) (r : Reading) : Decoded σ :=
  record.decodeWith
    (fun n => .mismatch (.length n s!"{elements record.fields.length} in sequence")) r

/-- Decode a whole text: its value first, then what follows it. -/
def decodeText {α : Type} (decode : Reading → Decoded α) (text : String) : Decoded α := do
  let document := readDocument text
  let value ← decode document.root
  atEnd document.ending
  return value

end Audience.Json
