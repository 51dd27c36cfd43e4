import Audience.Json.Reading

set_option autoImplicit false

/-! # Texts of TOML

Lines, comments and strings. Strings come in four kinds: with escapes or without, on one line or
long. A line break is a line feed, which a carriage return may precede; within a long string it
counts as a line feed. -/

namespace Audience.Toml

/-! ## Lines -/

/-- Whether a character separates parts of a line. -/
def isSpace (c : Char) : Bool :=
  c == ' ' || c == '\t'

/-- Whether a character may stand in a comment, or in a string as it is. Of the control characters
only the tab may. -/
def isPlain (c : Char) : Bool :=
  c == '\t' || (0x20 ≤ c.toNat && c.toNat != 0x7F)

/-- The text after the spaces at its start. -/
def skipSpace (cs : List Char) : List Char :=
  cs.dropWhile isSpace

/-- What follows the line break that a text starts with. -/
def newLine? : List Char → Option (List Char)
  | '\n' :: rest => some rest
  | '\r' :: '\n' :: rest => some rest
  | _ => none

/-- What follows the rest of a line on which nothing but a comment is left. -/
def endLine? (cs : List Char) : Option (List Char) :=
  let rest := match skipSpace cs with
    | '#' :: comment => comment.dropWhile isPlain
    | rest => rest
  if rest.isEmpty then some [] else newLine? rest

/-- What follows spaces, line breaks and comments; `comment` says whether the text starts within a
comment. -/
def skipLines (comment : Bool) : List Char → Option (List Char)
  | [] => some []
  | '\r' :: '\n' :: rest => skipLines false rest
  | c :: rest =>
    if c = '\n' then skipLines false rest
    else if comment then if isPlain c then skipLines true rest else none
    else if isSpace c then skipLines false rest
    else if c = '#' then skipLines true rest
    else some (c :: rest)

/-! ## Escapes -/

/-- The character that hexadecimal digits number, if it is one. -/
def numberedChar? (digits : List Char) : Option Char := do
  let n ← digits.foldlM (fun n c => (Json.hexValue? c).map (n * 16 + ·)) 0
  if n.isValidChar then return Char.ofNat n else none

/-- The character that a letter after a backslash stands for. -/
def escapedChar? (c : Char) : Option Char :=
  match c with
  | 'b' => some '\x08'
  | 't' => some '\t'
  | 'n' => some '\n'
  | 'f' => some '\x0c'
  | 'r' => some '\r'
  | '"' => some '"'
  | '\\' => some '\\'
  | _ => none

/-! ## Strings -/

/-- What was read of a string, and the text after it. -/
abbrev Read := Option (List Char × List Char)

/-- Put a character in front of what was read after it. -/
def Read.add (c : Option Char) (r : Read) : Read := do
  let c ← c
  let (text, rest) ← r
  return (c :: text, rest)

/-- A string with escapes, after its opening quote. -/
def escaped? : List Char → Read
  | [] => none
  | '"' :: rest => some ([], rest)
  | '\\' :: 'u' :: a :: b :: c :: d :: rest =>
    Read.add (numberedChar? [a, b, c, d]) (escaped? rest)
  | '\\' :: 'U' :: a :: b :: c :: d :: e :: f :: g :: h :: rest =>
    Read.add (numberedChar? [a, b, c, d, e, f, g, h]) (escaped? rest)
  | '\\' :: c :: rest => Read.add (escapedChar? c) (escaped? rest)
  | c :: rest => if isPlain c then Read.add c (escaped? rest) else none

/-- A string without escapes, after its opening quote. -/
def literal? : List Char → Read
  | [] => none
  | c :: rest =>
    if c = '\'' then some ([], rest)
    else if isPlain c then Read.add c (literal? rest) else none

/-- The end of a long string after three quotes: up to two more belong to its text. -/
def closeLong (quote : Char) (cs : List Char) : List Char × List Char :=
  let more := (cs.take 2).takeWhile (· == quote)
  (more, cs.drop more.length)

/-- A long string with escapes, after its opening quotes. A backslash at the end of a line takes the
line break away, and all space before the next character; `joining` says that this goes on. -/
def longEscaped? (joining : Bool) : List Char → Read
  | [] => none
  | '"' :: '"' :: '"' :: rest => some (closeLong '"' rest)
  | '\\' :: 'u' :: a :: b :: c :: d :: rest =>
    Read.add (numberedChar? [a, b, c, d]) (longEscaped? false rest)
  | '\\' :: 'U' :: a :: b :: c :: d :: e :: f :: g :: h :: rest =>
    Read.add (numberedChar? [a, b, c, d, e, f, g, h]) (longEscaped? false rest)
  | '\r' :: '\n' :: rest =>
    if joining then longEscaped? true rest else Read.add '\n' (longEscaped? false rest)
  | '\\' :: c :: rest =>
    if (newLine? (skipSpace (c :: rest))).isSome then longEscaped? true (c :: rest)
    else Read.add (escapedChar? c) (longEscaped? false rest)
  | c :: rest =>
    if joining && (isSpace c || c == '\n') then longEscaped? true rest
    else if isPlain c || c == '\n' then Read.add c (longEscaped? false rest)
    else none

/-- A long string without escapes, after its opening quotes. -/
def longLiteral? : List Char → Read
  | [] => none
  | '\'' :: '\'' :: '\'' :: rest => some (closeLong '\'' rest)
  | '\r' :: '\n' :: rest => Read.add '\n' (longLiteral? rest)
  | c :: rest => if isPlain c || c == '\n' then Read.add c (longLiteral? rest) else none

/-- The string at the start of a text. A line break right after the quotes that open a long string
does not count. -/
def string? : List Char → Read
  | '"' :: '"' :: '"' :: rest => longEscaped? false ((newLine? rest).getD rest)
  | '"' :: rest => escaped? rest
  | '\'' :: '\'' :: '\'' :: rest => longLiteral? ((newLine? rest).getD rest)
  | '\'' :: rest => literal? rest
  | _ => none

/-! ## Keys -/

/-- Whether a character may stand in a key without quotes. -/
def isBare (c : Char) : Bool :=
  c.isAlphanum || c == '_' || c == '-'

/-- The part of a key at the start of a text. -/
def keyPart? : List Char → Read
  | '"' :: rest => escaped? rest
  | '\'' :: rest => literal? rest
  | cs =>
    let bare := cs.takeWhile isBare
    if bare.isEmpty then none else some (bare, cs.dropWhile isBare)

/-- A key and the text after it: the parts before its last one, and the last. The fuel bounds the
number of parts, and the length of the text is enough. -/
def key? (fuel : Nat) (cs : List Char) : Option ((List String × String) × List Char) :=
  match fuel with
  | 0 => none
  | fuel + 1 => do
    let (part, rest) ← keyPart? (skipSpace cs)
    match skipSpace rest with
    | '.' :: rest =>
      let ((path, last), rest) ← key? fuel rest
      return ((.ofList part :: path, last), rest)
    | rest => return (([], .ofList part), rest)

end Audience.Toml
