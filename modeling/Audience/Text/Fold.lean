import Audience.Text.Base
import Audience.Text.Blank
import Audience.Text.Lower

set_option autoImplicit false

/-! # Search keys

Two spellings of a value that differ in case, diacritics or spacing have one search key. Trimming
comes first, so that a sigma at the end of a word is seen as final; the Vietnamese letter đ, which
has no decomposition, is taken for a d. -/

namespace Audience.Text

/-- The Vietnamese letter đ is a d with a stroke; every other character stands for itself. -/
def plainD (c : Char) : Char :=
  if c = 'đ' then 'd' else c

/-- The search key of a text: lower case, no marks, one space between words. -/
def foldChars (cs : List Char) : List Char :=
  unwords (words (((lower (trim cs)).flatMap baseOf).map plainD))

/-- The search key of a text. -/
def fold (s : String) : String :=
  .ofList (foldChars s.toList)

end Audience.Text
