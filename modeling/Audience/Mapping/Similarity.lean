import Audience.Text.Blank

set_option autoImplicit false

/-! # Similarity of spellings

The Sørensen–Dice coefficient: twice the pairs of neighbouring characters that two texts share, over
the pairs that both have. Blanks do not count. The pairs are of characters, while the number of pairs
is taken from the lengths in bytes, so a text outside ASCII counts as longer than its pairs. -/

namespace Audience.Mapping

/-- The pairs of neighbouring characters. -/
def bigrams : List Char → List (Char × Char)
  | a :: b :: rest => (a, b) :: bigrams (b :: rest)
  | _ => []

/-- How many members two lists share, where each may be shared as often as both have it. -/
def commonCount {α : Type} [BEq α] : List α → List α → Nat
  | [], _ => 0
  | x :: xs, ys => if ys.contains x then commonCount xs (ys.erase x) + 1 else commonCount xs ys

/-- The length of a text in bytes. -/
def byteLength : List Char → Nat
  | [] => 0
  | c :: rest => c.utf8Size + byteLength rest

/-- How similar two texts are, from 0 to 1. -/
def similarity (s t : String) : Float :=
  let a := s.toList.filter (!Text.isBlank ·)
  let b := t.toList.filter (!Text.isBlank ·)
  if a = b then 1.0
  else if byteLength a < 2 ∨ byteLength b < 2 then 0.0
  else Float.ofNat (2 * commonCount (bigrams b) (bigrams a))
    / Float.ofNat (byteLength a + byteLength b - 2)

end Audience.Mapping
