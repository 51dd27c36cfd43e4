set_option autoImplicit false

/-! # Patterns of LIKE

In a pattern a percent sign stands for any text and an underscore for any character. A backslash in
front of one of them, or of itself, takes that meaning away. -/

namespace Audience.Like

/-- Whether a character has a meaning of its own in patterns. -/
def isSpecial (c : Char) : Bool :=
  c == '%' || c == '_' || c == '\\'

/-- A character that stands for itself in a pattern. -/
def escapeChar (c : Char) : List Char :=
  if isSpecial c then ['\\', c] else [c]

/-- A text that stands for itself in a pattern. -/
def escape (s : String) : String :=
  .ofList (s.toList.flatMap escapeChar)

/-- The pattern of the texts that hold a given one. -/
def containing (s : String) : String :=
  "%" ++ escape s ++ "%"

/-- The pattern of the texts that start with a given one. -/
def startingWith (s : String) : String :=
  escape s ++ "%"

/-- The pattern of the texts that end with a given one. -/
def endingWith (s : String) : String :=
  "%" ++ escape s

end Audience.Like
