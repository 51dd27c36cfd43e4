import Audience.Toml.Word
import Audience.Toml.Table
import Audience.Toml.Text

set_option autoImplicit false

/-! # Reading TOML documents

A document is made of lines: keys with values, and headers that say which table the keys after them
belong to. Its value is an object. Either the whole document makes sense or it has no value. -/

namespace Audience.Toml

/-! ## Values -/

/-- Whether a character may stand in a word. -/
def isWordChar (c : Char) : Bool :=
  c.isAlphanum || c == '_' || c == '+' || c == '-' || c == '.' || c == ':'

/-- The word at the start of a text and what follows it. A date and a time of day with a space
between them are one word. -/
def takeWord (cs : List Char) : List Char × List Char :=
  let word := cs.takeWhile isWordChar
  match cs.dropWhile isWordChar with
  | ' ' :: rest =>
    let next := rest.takeWhile isWordChar
    if afterDate? word == some [] && !next.isEmpty then
      (word ++ ' ' :: next, rest.dropWhile isWordChar)
    else (word, ' ' :: rest)
  | rest => (word, rest)

mutual

/-- The value at the start of a text and the rest. There is room for so many containers within one
another, and the fuel bounds the number of steps: twice the length of the text is enough. -/
def value? (room fuel : Nat) (cs : List Char) : Option (Json × List Char) :=
  match fuel with
  | 0 => none
  | fuel + 1 =>
    match cs with
    | [] => none
    | c :: rest =>
      if c = '[' then
        match room with
        | 0 => none
        | room + 1 => do
          let (items, rest) ← items? room fuel rest
          return (.array items, rest)
      else if c = '{' then
        match room with
        | 0 => none
        | room + 1 => do
          let (members, rest) ← match skipSpace rest with
            | '}' :: rest => some ([], rest)
            | rest => members? room fuel [] rest
          return ((Item.table .headed members).toJson, rest)
      else if c = '"' ∨ c = '\'' then do
        let (text, rest) ← string? (c :: rest)
        return (.string (.ofList text), rest)
      else do
        let (word, rest) := takeWord (c :: rest)
        return (← word? word, rest)

/-- The items of an array after its opening bracket or a comma. -/
def items? (room fuel : Nat) (cs : List Char) : Option (List Json × List Char) :=
  match fuel with
  | 0 => none
  | fuel + 1 => do
    match ← skipLines false cs with
    | ']' :: rest => return ([], rest)
    | rest =>
      let (item, rest) ← value? room fuel rest
      match ← skipLines false rest with
      | ',' :: rest =>
        let (items, rest) ← items? room fuel rest
        return (item :: items, rest)
      | ']' :: rest => return ([item], rest)
      | _ => none

/-- The members of a table within braces, put into those before. -/
def members? (room fuel : Nat) (before : Members) (cs : List Char) :
    Option (Members × List Char) :=
  match fuel with
  | 0 => none
  | fuel + 1 => do
    let ((path, key), v, rest) ← keyValue? room fuel cs
    let members ← put path key v before
    match skipSpace rest with
    | ',' :: rest => members? room fuel members rest
    | '}' :: rest => return (members, rest)
    | _ => none

/-- A key with its value. -/
def keyValue? (room fuel : Nat) (cs : List Char) :
    Option ((List String × String) × Json × List Char) :=
  match fuel with
  | 0 => none
  | fuel + 1 => do
    let (key, rest) ← key? cs.length cs
    match rest with
    | '=' :: rest =>
      let (v, rest) ← value? room fuel (skipSpace rest)
      return (key, v, rest)
    | _ => none

end

/-! ## Documents -/

/-- How many containers of one value may be within one another. -/
def maxDepth : Nat := 79

/-- A key in brackets and the text after it, when the opening brackets were passed. -/
def header? (closing : List Char) (cs : List Char) :
    Option ((List String × String) × List Char) := do
  let (key, rest) ← key? cs.length cs
  if closing.isPrefixOf rest then
    return (key, ← endLine? (rest.drop closing.length))
  else none

/-- Put the lines of a text into what the lines before it have made; `header` leads to the table that
keys belong to. The fuel bounds the number of lines. -/
def lines? (fuel : Nat) (header : List String) (root : Members) (cs : List Char) :
    Option Members :=
  match fuel with
  | 0 => none
  | fuel + 1 =>
    match skipSpace cs with
    | [] => some root
    | '[' :: '[' :: rest => do
      let ((path, key), rest) ← header? [']', ']'] rest
      lines? fuel (path ++ [key]) (← openNext path key root) rest
    | '[' :: rest => do
      let ((path, key), rest) ← header? [']'] rest
      lines? fuel (path ++ [key]) (← openTable path key root) rest
    | c :: rest =>
      match endLine? (c :: rest) with
      | some rest => lines? fuel header root rest
      | none => do
        let ((path, key), v, rest) ← keyValue? maxDepth (2 * cs.length + 2) (c :: rest)
        lines? fuel header (← putUnder header path key v root) (← endLine? rest)

/-- The value of a document. A mark of the byte order may stand in front of it. -/
def parse (text : String) : Option Json :=
  let cs := match text.toList with
    | '\uFEFF' :: rest => rest
    | cs => cs
  (lines? (cs.length + 1) [] [] cs).map fun root => (Item.table .headed root).toJson

end Audience.Toml
