import Audience.Text.CodePoint

set_option autoImplicit false

/-! # Sets of code points

A table of runs is kept as a number whose bits are its code points, so that whether many code points lie
in none of many runs is decided by looking at bits (`testBit_runBits`). For tables of images,
`CaseRun.offsets` lists how far the members of a run lie from its first one; a character that is a
member of no run stays as it is (`mapRuns_of_not_member`), any other becomes an image
(`mapRuns_of_member`). -/

namespace Audience.Text

/-! ## Runs as bits -/

/-- The code points of one run as the bits of a number. -/
def intervalBits (r : Nat × Nat) : Nat :=
  (1 <<< (r.2 + 1 - r.1) - 1) <<< r.1

/-- The code points of a few runs. -/
def blockBits : List (Nat × Nat) → Nat
  | [] => 0
  | r :: rest => intervalBits r ||| blockBits rest

/-- The code points of runs, block by block: with all runs of a table in one, evaluating it would nest as
deep as the table is long. -/
def bitsOfBlocks : Nat → List (Nat × Nat) → Nat
  | 0, runs => blockBits runs
  | blocks + 1, runs => blockBits (runs.take 64) ||| bitsOfBlocks blocks (runs.drop 64)

/-- The code points of some runs as the bits of a number. -/
def runBits (runs : List (Nat × Nat)) : Nat :=
  bitsOfBlocks 40 runs

theorem testBit_intervalBits (r : Nat × Nat) (n : Nat) :
    (intervalBits r).testBit n = (r.1 ≤ n && n ≤ r.2) := by
  rw [intervalBits, Nat.testBit_shiftLeft, Nat.one_shiftLeft, Nat.testBit_two_pow_sub_one,
    Bool.eq_iff_iff]
  simp only [Bool.and_eq_true, decide_eq_true_eq]
  omega

theorem testBit_blockBits (runs : List (Nat × Nat)) (n : Nat) :
    (blockBits runs).testBit n = runs.any fun r => r.1 ≤ n && n ≤ r.2 := by
  induction runs with
  | nil => simp [blockBits]
  | cons r rest ih => rw [blockBits, Nat.testBit_or, testBit_intervalBits, ih, List.any_cons]

theorem testBit_bitsOfBlocks (blocks : Nat) (runs : List (Nat × Nat)) (n : Nat) :
    (bitsOfBlocks blocks runs).testBit n = runs.any fun r => r.1 ≤ n && n ≤ r.2 := by
  induction blocks generalizing runs with
  | zero => exact testBit_blockBits runs n
  | succ blocks ih =>
      rw [bitsOfBlocks, Nat.testBit_or, testBit_blockBits, ih, ← List.any_append,
        List.take_append_drop]

theorem testBit_runBits (runs : List (Nat × Nat)) (n : Nat) :
    (runBits runs).testBit n = runs.any fun r => r.1 ≤ n && n ≤ r.2 :=
  testBit_bitsOfBlocks 40 runs n

theorem inRanges_eq_testBit (runs : List (Nat × Nat)) (c : Char) :
    inRanges runs c = (runBits runs).testBit c.toNat :=
  (testBit_runBits runs c.toNat).symm

/-- A character made of a code point has it, unless the code point belongs to none. -/
theorem toNat_ofNat_eq_or (n : Nat) : (Char.ofNat n).toNat = n ∨ (Char.ofNat n).toNat = 0 := by
  by_cases h : n.isValidChar
  · exact Or.inl (by rw [Char.ofNat, dif_pos h]; rfl)
  · exact Or.inr (by rw [Char.ofNat, dif_neg h]; rfl)

/-- A character made of a code point lies in no run if neither the code point nor zero does. -/
theorem inRanges_ofNat {runs : List (Nat × Nat)} {n : Nat} (h0 : (runBits runs).testBit 0 = false)
    (hn : (runBits runs).testBit n = false) : inRanges runs (Char.ofNat n) = false := by
  rw [inRanges_eq_testBit]
  rcases toNat_ofNat_eq_or n with h | h
  · rw [h]; exact hn
  · rw [h]; exact h0

/-! ## Runs with images -/

namespace CaseRun

/-- How far the members of a run lie from its first one. -/
def offsets (r : CaseRun) : List Nat :=
  (List.range ((r.last - r.first) / r.stride + 1)).map (· * r.stride)

/-- The members of a run, each as a run of its own. -/
def members (r : CaseRun) : List (Nat × Nat) :=
  r.offsets.map fun o => (r.first + o, r.first + o)

/-- The image of a member lies as far from the image of the first one as the member does from it. -/
theorem exists_of_map?_eq_some {r : CaseRun} {n m : Nat} (h : r.map? n = some m) :
    ∃ o ∈ r.offsets, n = r.first + o ∧ m = r.image + o := by
  unfold map? at h
  split at h
  · next hn =>
      obtain ⟨hfirst, hlast, hmod⟩ := hn
      simp only [Option.some.injEq] at h
      have hmul : (n - r.first) / r.stride * r.stride = n - r.first :=
        Nat.div_mul_cancel (Nat.dvd_of_mod_eq_zero hmod)
      have hle : (n - r.first) / r.stride ≤ (r.last - r.first) / r.stride :=
        Nat.div_le_div_right (by omega)
      refine ⟨n - r.first, List.mem_map.2 ⟨_, List.mem_range.2 (by omega), hmul⟩, ?_, h.symm⟩
      omega
  · simp at h

/-- Every offset is that of a member. -/
theorem map?_of_mem_offsets {r : CaseRun} (hr : r.first ≤ r.last) {o : Nat} (ho : o ∈ r.offsets) :
    r.map? (r.first + o) = some (r.image + o) := by
  obtain ⟨k, hk, rfl⟩ := List.mem_map.1 ho
  rw [List.mem_range] at hk
  have hle : k * r.stride ≤ r.last - r.first := by
    calc k * r.stride
        ≤ (r.last - r.first) / r.stride * r.stride := Nat.mul_le_mul_right _ (by omega)
      _ ≤ r.last - r.first := Nat.div_mul_le_self _ _
  have hoff : r.first + k * r.stride - r.first = k * r.stride := by omega
  rw [map?, hoff, if_pos ⟨by omega, by omega, Nat.mul_mod_left _ _⟩]

end CaseRun

/-- The members of the runs of a table. -/
def membersOf (runs : List CaseRun) : List (Nat × Nat) :=
  runs.flatMap CaseRun.members

theorem inRanges_membersOf {runs : List CaseRun} {c : Char} :
    inRanges (membersOf runs) c = true ↔ ∃ r ∈ runs, ∃ o ∈ r.offsets, c.toNat = r.first + o := by
  simp only [inRanges, membersOf, CaseRun.members, List.any_flatMap, List.any_map, List.any_eq_true,
    Function.comp_apply, Bool.and_eq_true, decide_eq_true_eq]
  constructor
  · rintro ⟨r, hr, o, ho, h1, h2⟩
    exact ⟨r, hr, o, ho, by omega⟩
  · rintro ⟨r, hr, o, ho, h⟩
    exact ⟨r, hr, o, ho, by omega, by omega⟩

/-- A character that is a member of no run stays as it is. -/
theorem mapRuns_of_not_member {runs : List CaseRun} {c : Char}
    (h : inRanges (membersOf runs) c = false) : mapRuns runs c = c := by
  unfold mapRuns
  cases hfind : runs.findSome? (·.map? c.toNat) with
  | none => rfl
  | some m =>
      obtain ⟨r, hr, hmap⟩ := List.exists_of_findSome?_eq_some hfind
      obtain ⟨o, ho, hc, _⟩ := CaseRun.exists_of_map?_eq_some hmap
      rw [inRanges_membersOf.2 ⟨r, hr, o, ho, hc⟩] at h
      simp at h

/-- A member of a run becomes its image in one of the runs that hold it. -/
theorem mapRuns_of_member {runs : List CaseRun} (hruns : ∀ r ∈ runs, r.first ≤ r.last) {c : Char}
    (h : inRanges (membersOf runs) c = true) :
    ∃ r ∈ runs, ∃ o ∈ r.offsets,
      c.toNat = r.first + o ∧ mapRuns runs c = Char.ofNat (r.image + o) := by
  unfold mapRuns
  cases hfind : runs.findSome? (·.map? c.toNat) with
  | none =>
      obtain ⟨r, hr, o, ho, hc⟩ := inRanges_membersOf.1 h
      have hnone := List.findSome?_eq_none_iff.1 hfind r hr
      rw [hc, CaseRun.map?_of_mem_offsets (hruns r hr) ho] at hnone
      simp at hnone
  | some m =>
      obtain ⟨r, hr, hmap⟩ := List.exists_of_findSome?_eq_some hfind
      obtain ⟨o, ho, hc, rfl⟩ := CaseRun.exists_of_map?_eq_some hmap
      exact ⟨r, hr, o, ho, hc, rfl⟩

/-- Where no image of a table lies in some runs, a character outside of them stays outside. -/
theorem inRanges_mapRuns {runs : List CaseRun} {avoided : List (Nat × Nat)}
    (hruns : ∀ r ∈ runs, r.first ≤ r.last) (h0 : (runBits avoided).testBit 0 = false)
    (himages : ∀ r ∈ runs, ∀ o ∈ r.offsets, (runBits avoided).testBit (r.image + o) = false)
    {c : Char} (hc : inRanges avoided c = false) : inRanges avoided (mapRuns runs c) = false := by
  cases hmember : inRanges (membersOf runs) c with
  | false => rwa [mapRuns_of_not_member hmember]
  | true =>
      obtain ⟨r, hr, o, ho, _, himage⟩ := mapRuns_of_member hruns hmember
      rw [himage]
      exact inRanges_ofNat h0 (himages r hr o ho)

end Audience.Text
