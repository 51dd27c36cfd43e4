set_option autoImplicit false

/-! # Comparing codes without regard to case

Codes and labels of the vocabulary are plain English, so only the letters A to Z have a second case
there; every other character is compared as it stands. -/

namespace Audience.Text

/-- Lower the letters A to Z and leave every other character alone. -/
def asciiLower (c : Char) : Char :=
  if 'A' ≤ c ∧ c ≤ 'Z' then Char.ofNat (c.toNat + 32) else c

/-- A text with the letters A to Z lowered. -/
def asciiLowered (s : String) : String :=
  .ofList (s.toList.map asciiLower)

/-- Whether two texts differ at most in the case of the letters A to Z. -/
def sameIgnoringCase (s t : String) : Bool :=
  s.toList.map asciiLower == t.toList.map asciiLower

end Audience.Text
