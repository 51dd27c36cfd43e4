set_option autoImplicit false

/-! # Splitting texts

A text is split at every place where a character stands: there is one part more than there are such
places, and parts may be empty. -/

namespace Audience.Text

/-- The parts of a text between the places where a character stands. -/
def splitAt (separator : Char) : List Char → List (List Char)
  | [] => [[]]
  | c :: rest =>
    if c = separator then [] :: splitAt separator rest
    else match splitAt separator rest with
      | part :: parts => (c :: part) :: parts
      | [] => [[c]]

end Audience.Text
