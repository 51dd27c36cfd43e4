import Audience.Json.Literal

set_option autoImplicit false

/-! # Reading JSON text

A text is read into a tree that keeps its faults where they stand. Whoever takes the tree apart in
reading order meets the first fault first, and a part that is skipped can only show faults of its
outline: an escape that stands for no character or a number out of range is harmless there. So one
reader serves every way of decoding a text. -/

namespace Audience.Json

/-- Why a text is no JSON text: something is wrong with it, or it ends too early. -/
inductive Fault where
  | malformed
  | cutShort
  deriving DecidableEq

/-- What was found in a text. A list of items or members ends with its closing bracket, or else at a
fault. -/
inductive Reading where
  | null
  | bool (b : Bool)
  | number (n : Number)
  | string (s : String)
  /-- A value that shows a fault when its value is asked for, and perhaps none when it is skipped. -/
  | unreadable (whenRead : Fault) (whenSkipped : Option Fault)
  | array (items : List Reading) (ending : Option Fault)
  | object (members : List (Except Fault String × Reading)) (ending : Option Fault)

/-! ## Blanks and words -/

/-- Whether a character may stand between the parts of a text. -/
def isGap (c : Char) : Bool :=
  c == ' ' || c == '\n' || c == '\t' || c == '\r'

/-- The text after the blanks at its start. -/
def skipGap (cs : List Char) : List Char :=
  cs.dropWhile isGap

/-- What follows a word that has to come next. -/
def expectWord : List Char → List Char → Except Fault (List Char)
  | [], rest => .ok rest
  | _ :: _, [] => .error .cutShort
  | w :: word, c :: rest => if w = c then expectWord word rest else .error .malformed

/-! ## Strings -/

/-- What a string literal is made of: characters, and code units given by number. -/
inductive Piece where
  | char (c : Char)
  | unit (n : Nat)

/-- The value of a hexadecimal digit. -/
def hexValue? (c : Char) : Option Nat :=
  if '0' ≤ c ∧ c ≤ '9' then some (c.toNat - '0'.toNat)
  else if 'a' ≤ c ∧ c ≤ 'f' then some (c.toNat - 'a'.toNat + 10)
  else if 'A' ≤ c ∧ c ≤ 'F' then some (c.toNat - 'A'.toNat + 10)
  else none

/-- The number that four hexadecimal digits stand for. -/
def hexNumber? (a b c d : Char) : Option Nat := do
  let a ← hexValue? a
  let b ← hexValue? b
  let c ← hexValue? c
  let d ← hexValue? d
  return ((a * 16 + b) * 16 + c) * 16 + d

/-- The character that a letter after a backslash stands for. -/
def escapedChar? (c : Char) : Option Char :=
  match c with
  | '"' => some '"'
  | '\\' => some '\\'
  | '/' => some '/'
  | 'b' => some '\x08'
  | 'f' => some '\x0c'
  | 'n' => some '\n'
  | 'r' => some '\r'
  | 't' => some '\t'
  | _ => none

/-- Whether fewer than four bytes are left. -/
def endsWithinFour (cs : List Char) : Bool :=
  (cs.take 4).foldl (fun n c => n + c.utf8Size) 0 < 4

/-- Put a piece in front of what was read after it. -/
def addPiece (p : Piece) (r : List Piece × Except Fault (List Char)) :
    List Piece × Except Fault (List Char) :=
  (p :: r.1, r.2)

/-- The pieces of a string literal up to its closing quote, and the text after it. -/
def readPieces : List Char → List Piece × Except Fault (List Char)
  | [] => ([], .error .cutShort)
  | '"' :: rest => ([], .ok rest)
  | '\\' :: [] => ([], .error .cutShort)
  | '\\' :: 'u' :: a :: b :: c :: d :: rest =>
    if endsWithinFour (a :: b :: c :: d :: rest) then ([], .error .cutShort)
    else match hexNumber? a b c d with
      | some n => addPiece (.unit n) (readPieces rest)
      | none => ([], .error .malformed)
  | '\\' :: c :: rest =>
    if c = 'u' then ([], .error (if endsWithinFour rest then .cutShort else .malformed))
    else match escapedChar? c with
      | some e => addPiece (.char e) (readPieces rest)
      | none => ([], .error .malformed)
  | c :: rest =>
    if c.toNat < 0x20 then ([], .error .malformed) else addPiece (.char c) (readPieces rest)

/-- The character that two code units of a pair stand for. -/
def pairedChar (high low : Nat) : Char :=
  Char.ofNat (0x10000 + (high - 0xD800) * 0x400 + (low - 0xDC00))

/-- The text that pieces stand for. Code units of a pair have to come together; `ending` is what
stands after the last piece. -/
def joinPieces (ending : Fault) : List Piece → Except Fault (List Char)
  | [] => .ok []
  | .char c :: rest => (joinPieces ending rest).map (c :: ·)
  | .unit n :: rest =>
    if 0xDC00 ≤ n ∧ n ≤ 0xDFFF then .error .malformed
    else if n < 0xD800 ∨ 0xDBFF < n then (joinPieces ending rest).map (Char.ofNat n :: ·)
    else match rest with
      | [] => .error ending
      | .unit m :: rest =>
        if 0xDC00 ≤ m ∧ m ≤ 0xDFFF then (joinPieces ending rest).map (pairedChar n m :: ·)
        else .error .malformed
      | .char _ :: _ => .error .malformed

/-- The text of a string literal whose opening quote was passed, and what follows it. -/
def readString (cs : List Char) : Except Fault String × Except Fault (List Char) :=
  let (pieces, after) := readPieces cs
  let text := match after with
    | .ok _ => joinPieces .malformed pieces
    | .error f => (joinPieces f pieces).bind fun _ => .error f
  (text.map .ofList, after)

/-! ## Numbers -/

/-- The digits at the start of a text and the rest. -/
def spanDigits (cs : List Char) : List Char × List Char :=
  (cs.takeWhile Char.isDigit, cs.dropWhile Char.isDigit)

/-- A place in a number where a digit is missing. Only one who reads the number sees that the text
ends there. -/
def missingDigit (rest : List Char) : Except (Fault × Fault) (Literal × List Char) :=
  .error (if rest.isEmpty then .cutShort else .malformed, .malformed)

/-- The exponent of a literal, if there is one, after its sign, digits and fraction. -/
def readExponent (l : Literal) (cs : List Char) : Except (Fault × Fault) (Literal × List Char) :=
  match cs with
  | [] => .ok (l, [])
  | c :: rest =>
    if c = 'e' ∨ c = 'E' then
      let (negative, rest) := match rest with
        | '+' :: r => (false, r)
        | '-' :: r => (true, r)
        | r => (false, r)
      let (digits, rest) := spanDigits rest
      if digits.isEmpty then missingDigit rest
      else .ok (⟨l.negative, l.whole, l.fraction, some (negative, digits)⟩, rest)
    else .ok (l, c :: rest)

/-- The fraction and exponent of a literal after its sign and digits. -/
def readFraction (negative : Bool) (whole : List Char) (cs : List Char) :
    Except (Fault × Fault) (Literal × List Char) :=
  match cs with
  | '.' :: rest =>
    let (digits, rest) := spanDigits rest
    if digits.isEmpty then missingDigit rest
    else readExponent ⟨negative, whole, some digits, none⟩ rest
  | rest => readExponent ⟨negative, whole, none, none⟩ rest

/-- A number literal and what follows it. -/
def readLiteral (cs : List Char) : Except (Fault × Fault) (Literal × List Char) :=
  let (negative, body) := match cs with
    | '-' :: rest => (true, rest)
    | rest => (false, rest)
  let (whole, rest) := spanDigits body
  match whole with
  | [] => missingDigit rest
  | '0' :: _ :: _ => .error (.malformed, .malformed)
  | _ => readFraction negative whole rest

/-! ## Values -/

/-- What is left of a text after a value, or the fault of its outline. -/
abbrev Rest := Except Fault (List Char)

/-- The fault a part of a text ends with, if it has one. -/
def faultOf : Rest → Option Fault
  | .ok _ => none
  | .error f => some f

/-- A value that cannot be read because of its outline. -/
def broken (f : Fault) : Reading × Rest :=
  (.unreadable f (some f), .error f)

/-- A word that stands for a value. -/
def readWord (word : String) (value : Reading) (cs : List Char) : Reading × Rest :=
  match expectWord word.toList cs with
  | .ok rest => (value, .ok rest)
  | .error f => broken f

/-- A number as a value. -/
def readNumber (cs : List Char) : Reading × Rest :=
  match readLiteral cs with
  | .ok (l, rest) =>
    match l.value? with
    | some n => (.number n, .ok rest)
    | none => (.unreadable .malformed none, .ok rest)
  | .error (whenRead, whenSkipped) => (.unreadable whenRead (some whenSkipped), .error whenSkipped)

/-- A string as a value. -/
def readText (cs : List Char) : Reading × Rest :=
  let (text, rest) := readString cs
  match text with
  | .ok s => (.string s, rest)
  | .error f => (.unreadable f (faultOf rest), rest)

mutual

/-- The value at the start of a text, and the rest. The fuel bounds the number of steps, and twice
the length of the text is enough. -/
def readValue (fuel : Nat) (cs : List Char) : Reading × Rest :=
  match fuel with
  | 0 => broken .malformed
  | fuel + 1 =>
    match skipGap cs with
    | [] => broken .cutShort
    | 'n' :: rest => readWord "null" .null ('n' :: rest)
    | 't' :: rest => readWord "true" (.bool true) ('t' :: rest)
    | 'f' :: rest => readWord "false" (.bool false) ('f' :: rest)
    | '"' :: rest => readText rest
    | '[' :: rest =>
      let (items, after) := readFirstItem fuel rest
      (.array items (faultOf after), after)
    | '{' :: rest =>
      let (members, after) := readFirstMember fuel rest
      (.object members (faultOf after), after)
    | c :: rest =>
      if c = '-' || c.isDigit then readNumber (c :: rest) else broken .malformed

/-- The items of an array after its opening bracket. -/
def readFirstItem (fuel : Nat) (cs : List Char) : List Reading × Rest :=
  match fuel with
  | 0 => ([], .error .malformed)
  | fuel + 1 =>
    match skipGap cs with
    | [] => ([], .error .cutShort)
    | ']' :: rest => ([], .ok rest)
    | rest => readItem fuel rest

/-- An item, and the items after it. -/
def readItem (fuel : Nat) (cs : List Char) : List Reading × Rest :=
  match fuel with
  | 0 => ([], .error .malformed)
  | fuel + 1 =>
    let (item, after) := readValue fuel cs
    match after with
    | .error f => ([item], .error f)
    | .ok rest =>
      match skipGap rest with
      | [] => ([item], .error .cutShort)
      | ']' :: rest => ([item], .ok rest)
      | ',' :: rest =>
        let (items, after) := readItem fuel rest
        (item :: items, after)
      | _ => ([item], .error .malformed)

/-- The members of an object after its opening bracket. -/
def readFirstMember (fuel : Nat) (cs : List Char) : List (Except Fault String × Reading) × Rest :=
  match fuel with
  | 0 => ([], .error .malformed)
  | fuel + 1 =>
    match skipGap cs with
    | [] => ([], .error .cutShort)
    | '}' :: rest => ([], .ok rest)
    | '"' :: rest => readMember fuel rest
    | _ => ([], .error .malformed)

/-- A member whose opening quote was passed, and the members after it. -/
def readMember (fuel : Nat) (cs : List Char) : List (Except Fault String × Reading) × Rest :=
  match fuel with
  | 0 => ([], .error .malformed)
  | fuel + 1 =>
    let (key, after) := readString cs
    match after with
    | .error f => ([(key, .unreadable f (some f))], .error f)
    | .ok rest =>
      match skipGap rest with
      | [] => ([(key, .unreadable .cutShort (some .cutShort))], .error .cutShort)
      | ':' :: rest =>
        let (value, after) := readValue fuel rest
        match after with
        | .error f => ([(key, value)], .error f)
        | .ok rest =>
          match skipGap rest with
          | [] => ([(key, value)], .error .cutShort)
          | '}' :: rest => ([(key, value)], .ok rest)
          | ',' :: rest =>
            match skipGap rest with
            | [] => ([(key, value)], .error .cutShort)
            | '"' :: rest =>
              let (members, after) := readMember fuel rest
              ((key, value) :: members, after)
            | _ => ([(key, value)], .error .malformed)
          | _ => ([(key, value)], .error .malformed)
      | _ => ([(key, .unreadable .malformed (some .malformed))], .error .malformed)

end

/-- A whole text: its value, and the fault that its end shows. -/
structure Document where
  root : Reading
  ending : Option Fault

/-- Read a whole text. Nothing but blanks may follow its value. -/
def readDocument (text : String) : Document :=
  let cs := text.toList
  let (root, after) := readValue (2 * cs.length + 2) cs
  let ending := match after with
    | .ok rest => if (skipGap rest).isEmpty then none else some .malformed
    | .error f => some f
  ⟨root, ending⟩

/-! ## The value of a reading -/

/-- How many containers may be nested in one another. -/
def maxDepth : Nat := 127

mutual

/-- The value of a reading, or its first fault. A container has to fit into the room left. -/
def Reading.toJson (room : Nat) : Reading → Except Fault Json
  | .null => .ok .null
  | .bool b => .ok (.bool b)
  | .number n => .ok (.number n)
  | .string s => .ok (.string s)
  | .unreadable whenRead _ => .error whenRead
  | .array items ending =>
    match room with
    | 0 => .error .malformed
    | room + 1 => do
      let values ← itemsToJson room items
      match ending with
      | some f => .error f
      | none => .ok (.array values)
  | .object members ending =>
    match room with
    | 0 => .error .malformed
    | room + 1 => do
      let values ← membersToJson room members
      match ending with
      | some f => .error f
      | none => .ok (.object (sortMembers values))

/-- The values of items in reading order. -/
def itemsToJson (room : Nat) : List Reading → Except Fault (List Json)
  | [] => .ok []
  | r :: rest => do
    let value ← r.toJson room
    let values ← itemsToJson room rest
    return value :: values

/-- The values of members in reading order. -/
def membersToJson (room : Nat) :
    List (Except Fault String × Reading) → Except Fault (List (String × Json))
  | [] => .ok []
  | (key, r) :: rest => do
    let key ← key
    let value ← r.toJson room
    let values ← membersToJson room rest
    return (key, value) :: values

end

/-- The value of a whole text. -/
def parse (text : String) : Except Fault Json := do
  let document := readDocument text
  let value ← document.root.toJson maxDepth
  match document.ending with
  | some f => .error f
  | none => .ok value

mutual

/-- A value as a reading without faults. -/
def Reading.ofJson : Json → Reading
  | .null => .null
  | .bool b => .bool b
  | .number n => .number n
  | .string s => .string s
  | .array items => .array (itemsOfJson items) none
  | .object members => .object (membersOfJson members) none

/-- Items as readings without faults. -/
def itemsOfJson : List Json → List Reading
  | [] => []
  | v :: rest => Reading.ofJson v :: itemsOfJson rest

/-- Members as readings without faults. -/
def membersOfJson : List (String × Json) → List (Except Fault String × Reading)
  | [] => []
  | (key, v) :: rest => (.ok key, Reading.ofJson v) :: membersOfJson rest

end

end Audience.Json
