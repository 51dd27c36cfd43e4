set_option autoImplicit false

/-! # Steps that may fail

What it takes for steps done one after the other to succeed, or to fail. -/

namespace Audience

/-- Two steps succeed with what the second gives for the result of the first. -/
theorem bind_eq_ok_iff {ε α β : Type} {x : Except ε α} {f : α → Except ε β} {b : β} :
    x >>= f = .ok b ↔ ∃ a, x = .ok a ∧ f a = .ok b := by
  cases x <;> simp [bind, Except.bind]

theorem map_eq_ok_iff {ε α β : Type} {x : Except ε α} {f : α → β} {b : β} :
    x.map f = .ok b ↔ ∃ a, x = .ok a ∧ f a = b := by
  cases x <;> simp [Except.map]

/-- Two steps fail when the first does, or the second for the result of the first. -/
theorem bind_eq_error_iff {ε α β : Type} {x : Except ε α} {f : α → Except ε β} {e : ε} :
    x >>= f = .error e ↔ x = .error e ∨ ∃ a, x = .ok a ∧ f a = .error e := by
  cases x <;> simp [bind, Except.bind]

theorem pure_eq_ok_iff {ε α : Type} {a b : α} : (pure a : Except ε α) = .ok b ↔ a = b := by
  simp [pure, Except.pure]

theorem pure_ne_error {ε α : Type} {a : α} {e : ε} : (pure a : Except ε α) ≠ .error e := by
  simp [pure, Except.pure]

/-- Without an error there is a result. -/
theorem exists_eq_ok_iff {ε α : Type} {x : Except ε α} :
    (∃ a, x = .ok a) ↔ ∀ e, x ≠ .error e := by
  cases x <;> simp

/-- Two steps, the last of which only makes something of what the others gave, fail with the first or else
with the second, if that does not depend on the first. -/
theorem bind_bind_pure_eq_error_iff {ε α β γ : Type} {x : Except ε α} {y : Except ε β}
    {g : α → β → γ} {e : ε} :
    (do let a ← x; let b ← y; return g a b) = .error e ↔
      x = .error e ∨ (∃ a, x = .ok a) ∧ y = .error e := by
  simp only [bind_eq_error_iff, pure_ne_error, and_false, exists_false, or_false, exists_and_right]

end Audience
