import Audience.Criteria.Normalize
import Audience.Stored.Canonical
import Mathlib.Data.List.Forall2

set_option autoImplicit false

/-! # Passes over lists

Two functions go over a list of conditions: one takes a step with a cache at each item, the other numbers
the items. Both leave every item in its place (`forall₂_each`, `forall₂_numbered`). What can be said of a
result at whatever time and with whatever cache, or of whatever number, is said of the list of results
(`map_each`, `map_numbered`). -/

namespace Audience

open Mapping (Cache Clock)

/-- Lists with the same truth values hold or fail together. -/
theorem forall_mem_iff_of_map_eq {α β : Type} {p : α → Prop} {q : β → Prop} {xs : List α} {ys : List β}
    (h : xs.map p = ys.map q) : (∀ x ∈ xs, p x) ↔ ∀ y ∈ ys, q y := by
  calc (∀ x ∈ xs, p x) ↔ ∀ r ∈ xs.map p, r := (List.forall_mem_map (P := fun r => r)).symm
    _ ↔ ∀ r ∈ ys.map q, r := by rw [h]
    _ ↔ ∀ y ∈ ys, q y := List.forall_mem_map (P := fun r => r)

section Places

variable {α β : Type} {R : α → β → Prop} {xs : List α} {ys : List β}

/-- What stands in the places of some items has a property when the items have the one that goes with it. -/
theorem forall_mem_iff_of_forall₂ {p : β → Prop} {q : α → Prop} (hplaces : List.Forall₂ R xs ys)
    (h : ∀ x ∈ xs, ∀ y, R x y → (p y ↔ q x)) : (∀ y ∈ ys, p y) ↔ ∀ x ∈ xs, q x := by
  induction hplaces with
  | nil => exact iff_of_true (fun _ hy => by cases hy) (fun _ hx => by cases hx)
  | cons hxy _ ih =>
      rw [List.forall_mem_cons, List.forall_mem_cons]
      exact and_congr (h _ List.mem_cons_self _ hxy) (ih fun x hx => h x (List.mem_cons_of_mem _ hx))

theorem forall_mem_of_forall₂ {p : β → Prop} (hplaces : List.Forall₂ R xs ys)
    (h : ∀ x ∈ xs, ∀ y, R x y → p y) : ∀ y ∈ ys, p y :=
  (forall_mem_iff_of_forall₂ (q := fun _ => True) hplaces fun x hx y hxy =>
    iff_true_intro (h x hx y hxy)).2 fun _ _ => trivial

end Places

namespace Criteria

namespace Setting

variable (s : Setting) (clock clock' : Clock)

@[simp] theorem resolver_during : (s.during clock).resolver = s.resolver := rfl

@[simp] theorem year_during : (s.during clock).year = s.year := rfl

@[simp] theorem during_deadline : s.during s.deadline = s := rfl

@[simp] theorem during_during : (s.during clock).during clock' = s.during clock' := rfl

end Setting

variable {α β γ : Type} {f : Setting → α → StateM Cache β} {s : Setting}

theorem run_each_cons (f : Setting → α → StateM Cache β) (s : Setting) (x : α) (xs : List α)
    (cache : Cache) :
    ((each f s (x :: xs)).run cache).1
      = ((f s.first x).run cache).1 :: ((each f s.rest xs).run ((f s.first x).run cache).2).1 :=
  rfl

/-- A pass leaves every item in its place. -/
theorem forall₂_each {R : α → β → Prop}
    (h : ∀ clock x cache, R x ((f (s.during clock) x).run cache).1) (xs : List α) (cache : Cache) :
    List.Forall₂ R xs ((each f s xs).run cache).1 := by
  induction xs generalizing s cache with
  | nil => exact .nil
  | cons x xs ih => exact .cons (h _ x cache) (ih (s := s.rest) h ((f s.first x).run cache).2)

/-- What items become, one after the other, each at its time and with the cache that is left. -/
theorem map_each {g : β → γ} {h : α → γ} {xs : List α}
    (hf : ∀ x ∈ xs, ∀ clock cache, g ((f (s.during clock) x).run cache).1 = h x) (cache : Cache) :
    ((each f s xs).run cache).1.map g = xs.map h := by
  induction xs generalizing s cache with
  | nil => rfl
  | cons x xs ih =>
      have hfirst := hf x List.mem_cons_self s.deadline.first cache
      have hrest := ih (s := s.rest) (fun y hy => hf y (List.mem_cons_of_mem x hy))
        ((f s.first x).run cache).2
      rw [run_each_cons, List.map_cons, List.map_cons, hrest]
      exact congrArg (· :: xs.map h) hfirst

theorem flatMap_each {g : β → List γ} {h : α → List γ}
    (hf : ∀ clock x cache, g ((f (s.during clock) x).run cache).1 = h x)
    (xs : List α) (cache : Cache) : ((each f s xs).run cache).1.flatMap g = xs.flatMap h := by
  rw [List.flatMap_def, List.flatMap_def, map_each fun x _ clock => hf clock x]

/-- A property of every result, where each result has it at whatever time and whatever the cache holds by
then, is a property of the items. -/
theorem forall_mem_each_iff {p : β → Prop} {q : α → Prop} {xs : List α}
    (h : ∀ x ∈ xs, ∀ clock cache, p ((f (s.during clock) x).run cache).1 ↔ q x) (cache : Cache) :
    (∀ y ∈ ((each f s xs).run cache).1, p y) ↔ ∀ x ∈ xs, q x :=
  forall_mem_iff_of_map_eq
    (map_each (fun x hx clock cache => propext (h x hx clock cache)) cache)

/-- The same for two passes, one over what the other leaves. -/
theorem forall_mem_each_each_iff {g : Setting → β → StateM Cache γ} {p : γ → Prop} {q : α → Prop}
    {u : Setting} {xs : List α}
    (h : ∀ x ∈ xs, ∀ clock clock' cache cache',
      p ((g (u.during clock') ((f (s.during clock) x).run cache).1).run cache').1 ↔ q x)
    (cache cache' : Cache) :
    (∀ z ∈ ((each g u ((each f s xs).run cache).1).run cache').1, p z) ↔ ∀ x ∈ xs, q x := by
  induction xs generalizing s u cache cache' with
  | nil => exact iff_of_true (fun z hz => by cases hz) (fun x hx => by cases hx)
  | cons x xs ih =>
      have hfirst := h x List.mem_cons_self s.deadline.first u.deadline.first cache cache'
      have hrest := ih (s := s.rest) (u := u.rest) fun y hy => h y (List.mem_cons_of_mem x hy)
      rw [run_each_cons, run_each_cons, List.forall_mem_cons, List.forall_mem_cons, hrest]
      exact and_congr_left' hfirst

end Criteria

namespace Stored

variable {α β γ : Type} {f : UInt32 → α → β}

/-- The items of a list and what they become, from any number on. -/
theorem forall₂_zipIdx {R : α → β → Prop} {xs : List α} (h : ∀ x ∈ xs, ∀ n, R x (f n x)) (start : Nat) :
    List.Forall₂ R xs ((xs.zipIdx start).map fun (x, i) => f (.ofNat i) x) := by
  induction xs generalizing start with
  | nil => exact .nil
  | cons x xs ih =>
      have hrest := ih (fun y hy => h y (List.mem_cons_of_mem x hy)) (start + 1)
      rw [List.zipIdx_cons, List.map_cons]
      exact .cons (h x List.mem_cons_self _) hrest

/-- Numbering leaves every item in its place. -/
theorem forall₂_numbered {R : α → β → Prop} {xs : List α} (h : ∀ x ∈ xs, ∀ n, R x (f n x)) :
    List.Forall₂ R xs (numbered f xs) :=
  forall₂_zipIdx h 1

@[simp] theorem length_numbered (xs : List α) : (numbered f xs).length = xs.length := by
  rw [numbered, List.length_map, List.length_zipIdx]

/-- Numbers play no part in what is the same for every number. -/
theorem map_numbered {g : β → γ} {h : α → γ} (hf : ∀ id x, g (f id x) = h x) (xs : List α) :
    (numbered f xs).map g = xs.map h := by
  simp only [numbered, List.map_map]
  have hfun : (g ∘ fun p : α × Nat => f (.ofNat p.2) p.1) = h ∘ Prod.fst :=
    funext fun p => hf _ p.1
  rw [hfun, ← List.map_map, List.zipIdx_map_fst]

theorem flatMap_numbered {g : β → List γ} {h : α → List γ} (hf : ∀ id x, g (f id x) = h x)
    (xs : List α) : (numbered f xs).flatMap g = xs.flatMap h := by
  rw [List.flatMap_def, List.flatMap_def, map_numbered hf]

theorem forall_mem_numbered_iff {p : β → Prop} {q : α → Prop} (h : ∀ id x, p (f id x) ↔ q x)
    (xs : List α) : (∀ y ∈ numbered f xs, p y) ↔ ∀ x ∈ xs, q x :=
  forall_mem_iff_of_map_eq (map_numbered (fun id x => propext (h id x)) xs)

end Stored

end Audience
