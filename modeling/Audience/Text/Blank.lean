import Audience.Text.CodePoint

set_option autoImplicit false

/-! # Blank space

Blank characters are those of the White_Space property, in every script. Trimming takes them off
both ends of a text, and words are the stretches between them. -/

namespace Audience.Text

/-- First and last code point of every run of blank characters. -/
def blankRanges : List (Nat × Nat) := [
  (0x9, 0xD), (0x20, 0x20), (0x85, 0x85), (0xA0, 0xA0), (0x1680, 0x1680), (0x2000, 0x200A),
  (0x2028, 0x2029), (0x202F, 0x202F), (0x205F, 0x205F), (0x3000, 0x3000)]

/-- Whether a character is blank. -/
def isBlank (c : Char) : Bool :=
  inRanges blankRanges c

/-- Take the blank characters off the end of a text. -/
def trimEnd (cs : List Char) : List Char :=
  (cs.reverse.dropWhile isBlank).reverse

/-- Take the blank characters off both ends of a text. -/
def trim (cs : List Char) : List Char :=
  trimEnd (cs.dropWhile isBlank)

/-- The words of a text that begins inside a word; `word` holds what was read of it. -/
def wordsFrom (word : List Char) : List Char → List (List Char)
  | [] => if word.isEmpty then [] else [word]
  | c :: rest =>
    if isBlank c then
      if word.isEmpty then wordsFrom [] rest else word :: wordsFrom [] rest
    else wordsFrom (word ++ [c]) rest

/-- The stretches of a text that hold no blank character. -/
def words (cs : List Char) : List (List Char) :=
  wordsFrom [] cs

/-- Put words together with one space between neighbours. -/
def unwords : List (List Char) → List Char
  | [] => []
  | [w] => w
  | w :: ws => w ++ ' ' :: unwords ws

/-- A text without the blank characters at its ends. -/
def trimmed (s : String) : String :=
  .ofList (trim s.toList)

/-- Whether a text holds nothing but blank characters. -/
def isAllBlank (s : String) : Bool :=
  s.toList.all isBlank

end Audience.Text
