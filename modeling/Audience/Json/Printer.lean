import Audience.Json.Value
import Audience.Number.Text

set_option autoImplicit false

/-! # Writing JSON text

The compact form holds no blanks. The pretty form gives every item and member a line of its own,
indented by two spaces for each container around it; an empty container stays on one line. Members
are written in the order they have. -/

namespace Audience.Json

/-- The hexadecimal digit of a number below sixteen. -/
def hexDigit (n : Nat) : Char :=
  Nat.digitChar n

/-- A character as it is written within quotes. -/
def escapeChar (c : Char) : List Char :=
  match c with
  | '"' => ['\\', '"']
  | '\\' => ['\\', '\\']
  | '\x08' => ['\\', 'b']
  | '\x0c' => ['\\', 'f']
  | '\n' => ['\\', 'n']
  | '\r' => ['\\', 'r']
  | '\t' => ['\\', 't']
  | c =>
    if c.toNat < 0x20 then ['\\', 'u', '0', '0', hexDigit (c.toNat / 16), hexDigit (c.toNat % 16)]
    else [c]

/-- A text in quotes. -/
def quoted (s : String) : List Char :=
  '"' :: s.toList.flatMap escapeChar ++ ['"']

/-- A number as it is written. -/
def Number.text : Number → List Char
  | .integer n => Number.intText n
  | .real x => Number.jsonText x

mutual

/-- The compact text of a value. -/
def compactChars : Json → List Char
  | .null => ['n', 'u', 'l', 'l']
  | .bool true => ['t', 'r', 'u', 'e']
  | .bool false => ['f', 'a', 'l', 's', 'e']
  | .number n => n.text
  | .string s => quoted s
  | .array [] => ['[', ']']
  | .array (item :: items) => '[' :: compactChars item ++ compactItems items
  | .object [] => ['{', '}']
  | .object ((key, value) :: members) =>
    '{' :: quoted key ++ ':' :: compactChars value ++ compactMembers members

/-- The items after the first, up to the closing bracket. -/
def compactItems : List Json → List Char
  | [] => [']']
  | item :: items => ',' :: compactChars item ++ compactItems items

/-- The members after the first, up to the closing bracket. -/
def compactMembers : List (String × Json) → List Char
  | [] => ['}']
  | (key, value) :: members => ',' :: quoted key ++ ':' :: compactChars value ++ compactMembers members

end

/-- The compact text of a value. -/
def compact (value : Json) : String :=
  .ofList (compactChars value)

/-- A new line, indented. -/
def newLine (indent : Nat) : List Char :=
  '\n' :: List.replicate (2 * indent) ' '

mutual

/-- The pretty text of a value that stands within `indent` containers. -/
def prettyChars (indent : Nat) : Json → List Char
  | .array (item :: items) =>
    '[' :: newLine (indent + 1) ++ prettyChars (indent + 1) item ++ prettyItems indent items
  | .object ((key, value) :: members) =>
    '{' :: newLine (indent + 1) ++ quoted key ++ ':' :: ' ' :: prettyChars (indent + 1) value
      ++ prettyMembers indent members
  | value => compactChars value

/-- The items after the first, up to the closing bracket. -/
def prettyItems (indent : Nat) : List Json → List Char
  | [] => newLine indent ++ [']']
  | item :: items =>
    ',' :: newLine (indent + 1) ++ prettyChars (indent + 1) item ++ prettyItems indent items

/-- The members after the first, up to the closing bracket. -/
def prettyMembers (indent : Nat) : List (String × Json) → List Char
  | [] => newLine indent ++ ['}']
  | (key, value) :: members =>
    ',' :: newLine (indent + 1) ++ quoted key ++ ':' :: ' ' :: prettyChars (indent + 1) value
      ++ prettyMembers indent members

end

/-- The pretty text of a value. -/
def pretty (value : Json) : String :=
  .ofList (prettyChars 0 value)

end Audience.Json
