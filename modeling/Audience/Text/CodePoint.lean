set_option autoImplicit false

/-! # Code-point tables

Properties and mappings of characters are kept as short tables over code points: runs of characters
that share a property, and runs whose images advance with them. -/

namespace Audience.Text

/-- Whether a character lies in one of the runs, each given by its first and last code point. -/
def inRanges (ranges : List (Nat × Nat)) (c : Char) : Bool :=
  ranges.any fun r => r.1 ≤ c.toNat && c.toNat ≤ r.2

/-- A run of characters and the images of its members. The run holds every `stride`-th code point
from `first` to `last`, and the image of a member lies as far from `image` as the member does from
`first`. -/
structure CaseRun where
  first : Nat
  last : Nat
  stride : Nat
  image : Nat

/-- The image of code point `n` in a run that holds it. -/
def CaseRun.map? (r : CaseRun) (n : Nat) : Option Nat :=
  if r.first ≤ n ∧ n ≤ r.last ∧ (n - r.first) % r.stride = 0 then some (r.image + (n - r.first))
  else none

/-- The image of a character in the first run that holds it, else the character itself. -/
def mapRuns (runs : List CaseRun) (c : Char) : Char :=
  match runs.findSome? (·.map? c.toNat) with
  | some n => Char.ofNat n
  | none => c

end Audience.Text
