import Audience.Vocabulary.Term

set_option autoImplicit false

/-! # Recency windows

A window is a stretch of time up to now, given by a unit and a number of units. -/

namespace Audience

/-- A stretch of time up to now. -/
structure Window where
  unit : TimeUnit
  length : Int64
  deriving DecidableEq

end Audience
