import Audience.Text.Blank
import Audience.Text.Lower
import Audience.Text.Upper

set_option autoImplicit false

/-! # Title case

Place names are written with a capital at the start of every word, and the parts of a hyphenated
name count as words. Characters are taken one at a time, so a capital sigma inside a word always
becomes the ordinary small one. -/

namespace Audience.Text

/-- Whether the character after this one starts a word. -/
def breaksWord (c : Char) : Bool :=
  isBlank c || c == '-'

/-- Title case of a text that continues a word, or starts one when `atStart` holds. -/
def titleFrom (atStart : Bool) : List Char → List Char
  | [] => []
  | c :: rest =>
    if breaksWord c then c :: titleFrom true rest
    else (if atStart then upperChar c else lowerChar c) ++ titleFrom false rest

/-- A text with a capital at the start of every word and small letters after it. -/
def title (s : String) : String :=
  .ofList (titleFrom true s.toList)

end Audience.Text
