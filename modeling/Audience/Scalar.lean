import Audience.Json.Decode
import Audience.Json.Printer
import Audience.Number.Reading
import Audience.Text.Blank

set_option autoImplicit false

/-! # Scalar values

The values of conditions and the parameters of a predicate. A text that writes a number counts as
that number wherever a number is needed. -/

namespace Audience

/-- A scalar value. -/
inductive Scalar where
  | null
  | bool (b : Bool)
  | int (n : Int64)
  | float (x : Float)
  | text (s : String)
  deriving DecidableEq

namespace Scalar

instance : Inhabited Scalar :=
  ⟨.null⟩

/-- Whether there is no value at all. -/
def isNull : Scalar → Bool
  | .null => true
  | _ => false

/-- Whether a value counts as absent: none at all, or a text of blanks. -/
def isBlank : Scalar → Bool
  | .null => true
  | .text s => Text.isAllBlank s
  | _ => false

/-- The text of a text value. -/
def text? : Scalar → Option String
  | .text s => some s
  | _ => none

/-- A value as a floating-point number. -/
def float? : Scalar → Option Float
  | .int n => some n.toFloat
  | .float x => some x
  | .text s => Number.readFloat? (Text.trim s.toList)
  | _ => none

/-- The integer that a floating-point number is, brought into the range of 64 bits; none when it has
a fraction. -/
def wholeInt64? (x : Float) : Option Int64 :=
  if Number.isWhole x then some (Number.toInt64 x) else none

/-- A value as an integer. A text may write it with a fraction of zero or an exponent. -/
def int64? : Scalar → Option Int64
  | .int n => some n
  | .float x => wholeInt64? x
  | .text s =>
    let cs := Text.trim s.toList
    (Number.readInt64? cs).or ((Number.readFloat? cs).bind wholeInt64?)
  | _ => none

/-- The number that a stored text writes, as an integer if it is one. -/
def ofNumberText? (raw : String) : Option Scalar :=
  let cs := Text.trim raw.toList
  match Number.readInt64? cs with
  | some n => some (.int n)
  | none => (Number.readFloat? cs).bind fun x => if x.isFinite then some (.float x) else none

/-- The stored text of a value. Nothing is stored for null, and a whole number shows no fraction
unless it is `10 ^ 15` or more in size. -/
def display : Scalar → String
  | .null => ""
  | .bool true => "true"
  | .bool false => "false"
  | .int n => Number.int64Text n
  | .float x =>
    if Number.isWhole x && x.abs < 1e15 then Number.int64Text (Number.toInt64 x)
    else .ofList (Number.plainText x)
  | .text s => s

/-! ## JSON -/

/-- The value of a number of JSON. -/
def ofNumber : Json.Number → Scalar
  | .integer n =>
    match Number.int64? n with
    | some i => .int i
    | none => .float (Float.ofInt n)
  | .real x => .float x

/-- The value of any JSON value; arrays and objects are kept as their text. -/
def ofJson : Json → Scalar
  | .null => .null
  | .bool b => .bool b
  | .number n => ofNumber n
  | .string s => .text s
  | .array items => .text (Json.array items).compact
  | .object members => .text (Json.object members).compact

/-- A value as JSON; what is no number is written as null. -/
def toJson : Scalar → Json
  | .null => .null
  | .bool b => .bool b
  | .int n => .ofInt n.toInt
  | .float x => if x.isFinite then .number (.real x) else .null
  | .text s => .string s

/-- Decode a scalar. Anything can be read as one but a container. -/
def decode (r : Json.Reading) : Json.Decoded Scalar := do
  let value ← Json.decodeAny Json.maxDepth r
  match value with
  | .array _ => Json.mismatch (.noVariant "Value")
  | .object _ => Json.mismatch (.noVariant "Value")
  | value => return ofJson value

end Scalar

end Audience
