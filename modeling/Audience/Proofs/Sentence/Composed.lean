import Audience.Proofs.Sentence.Matching

set_option autoImplicit false

/-! # Patterns made of parts

What a pattern reads is read by its parts, each where the one before it stopped. Sequences may be grouped
in any way (`Pattern.reads_seqs_append`), a boundary at either end of a sequence is a condition on what
stands there, and the groups that are noted down are those that the pattern has
(`Pattern.mem_numbers_of_reads`). A run that may be of any length is taken as far as it goes
(`Place.head?_runs`). -/

namespace Audience.Sentence

namespace Pattern

variable {a b c : Pattern} {before after : Option Char} {s u : List Char} {g : List (Nat × List Char)}

/-! ## One constructor at a time -/

theorem reads_literal_iff {cs : List Char} :
    (Pattern.literal cs).Reads before s after g ↔ s = cs ∧ g = [] := by
  constructor
  · intro h
    cases h
    exact ⟨rfl, rfl⟩
  · rintro ⟨rfl, rfl⟩
    exact .literal _ _ _

theorem reads_char_iff {ok : Char → Bool} :
    (Pattern.char ok).Reads before s after g ↔ (∃ c, ok c = true ∧ s = [c]) ∧ g = [] := by
  constructor
  · intro h
    cases h with
    | char hok => exact ⟨⟨_, hok, rfl⟩, rfl⟩
  · rintro ⟨⟨c, hok, rfl⟩, rfl⟩
    exact .char hok

theorem reads_boundary_iff :
    Pattern.boundary.Reads before s after g ↔ isBoundary before after = true ∧ s = [] ∧ g = [] := by
  constructor
  · intro h
    cases h with
    | boundary h => exact ⟨h, rfl, rfl⟩
  · rintro ⟨h, rfl, rfl⟩
    exact .boundary h

theorem reads_seq_iff :
    (Pattern.seq a b).Reads before u after g ↔ ∃ s t g₁ g₂, u = s ++ t ∧ g = g₂ ++ g₁ ∧
      a.Reads before s (t.head?.or after) g₁ ∧ b.Reads (s.getLast?.or before) t after g₂ := by
  constructor
  · intro h
    cases h with
    | seq ha hb => exact ⟨_, _, _, _, rfl, rfl, ha, hb⟩
  · rintro ⟨s, t, g₁, g₂, rfl, rfl, ha, hb⟩
    exact .seq ha hb

theorem reads_alt_iff :
    (Pattern.alt a b).Reads before s after g ↔ a.Reads before s after g ∨ b.Reads before s after g := by
  constructor
  · intro h
    cases h with
    | left ha => exact .inl ha
    | right hb => exact .inr hb
  · rintro (ha | hb)
    · exact .left ha
    · exact .right hb

theorem reads_opt_iff :
    (Pattern.opt a).Reads before s after g ↔ a.Reads before s after g ∨ s = [] ∧ g = [] := by
  constructor
  · intro h
    cases h with
    | given ha => exact .inl ha
    | leftOut => exact .inr ⟨rfl, rfl⟩
  · rintro (ha | ⟨rfl, rfl⟩)
    · exact .given ha
    · exact .leftOut _ _ _

theorem reads_run_iff {ok : Char → Bool} {least : Nat} {most : Option Nat} :
    (Pattern.run ok least most).Reads before s after g ↔
      ((∀ c ∈ s, ok c = true) ∧ least ≤ s.length ∧ ∀ n ∈ most, s.length ≤ n) ∧ g = [] := by
  constructor
  · intro h
    cases h with
    | run hok hleast hmost => exact ⟨⟨hok, hleast, hmost⟩, rfl⟩
  · rintro ⟨⟨hok, hleast, hmost⟩, rfl⟩
    exact .run hok hleast hmost

theorem reads_group_iff {n : Nat} :
    (Pattern.group n a).Reads before s after g ↔ ∃ g', g = (n, s) :: g' ∧ a.Reads before s after g' := by
  constructor
  · intro h
    cases h with
    | group _ ha => exact ⟨_, rfl, ha⟩
  · rintro ⟨g', rfl, ha⟩
    exact .group n ha

/-! ## Sequences -/

theorem reads_seq_assoc :
    (Pattern.seq (.seq a b) c).Reads before u after g ↔
      (Pattern.seq a (.seq b c)).Reads before u after g := by
  constructor
  · intro h
    obtain ⟨st, v, g₁₂, g₃, rfl, rfl, hab, hc⟩ := reads_seq_iff.1 h
    obtain ⟨s, t, g₁, g₂, rfl, rfl, ha, hb⟩ := reads_seq_iff.1 hab
    rw [← Option.or_assoc, ← List.head?_append] at ha
    rw [List.getLast?_append, Option.or_assoc] at hc
    rw [List.append_assoc s, ← List.append_assoc g₃]
    exact .seq ha (.seq hb hc)
  · intro h
    obtain ⟨s, tv, g₁, g₂₃, rfl, rfl, ha, hbc⟩ := reads_seq_iff.1 h
    obtain ⟨t, v, g₂, g₃, rfl, rfl, hb, hc⟩ := reads_seq_iff.1 hbc
    rw [List.head?_append, Option.or_assoc] at ha
    rw [← Option.or_assoc, ← List.getLast?_append] at hc
    rw [← List.append_assoc, List.append_assoc g₃]
    exact .seq (.seq ha hb) hc

theorem reads_nothing_seq_iff :
    (Pattern.seq (.literal []) a).Reads before u after g ↔ a.Reads before u after g := by
  constructor
  · intro h
    obtain ⟨s, t, g₁, g₂, rfl, rfl, hnothing, ha⟩ := reads_seq_iff.1 h
    obtain ⟨rfl, rfl⟩ := reads_literal_iff.1 hnothing
    rwa [List.append_nil]
  · intro ha
    exact reads_seq_iff.2 ⟨[], u, [], g, rfl, (List.append_nil g).symm, .literal _ _ _, ha⟩

theorem reads_seq_nothing_iff :
    (Pattern.seq a (.literal [])).Reads before u after g ↔ a.Reads before u after g := by
  constructor
  · intro h
    obtain ⟨s, t, g₁, g₂, rfl, rfl, ha, hnothing⟩ := reads_seq_iff.1 h
    obtain ⟨rfl, rfl⟩ := reads_literal_iff.1 hnothing
    rwa [List.append_nil]
  · intro ha
    exact reads_seq_iff.2 ⟨u, [], g, [], (List.append_nil u).symm, rfl, ha, .literal _ _ _⟩

theorem reads_seqs_cons {ps : List Pattern} :
    (seqs (a :: ps)).Reads before u after g ↔ (Pattern.seq a (seqs ps)).Reads before u after g := by
  cases ps with
  | nil => exact reads_seq_nothing_iff.symm
  | cons p ps => exact Iff.rfl

/-- A sequence is read in two parts, wherever it is cut. -/
theorem reads_seqs_append {ps qs : List Pattern} :
    (seqs (ps ++ qs)).Reads before u after g ↔
      (Pattern.seq (seqs ps) (seqs qs)).Reads before u after g := by
  induction ps generalizing before u after g with
  | nil => exact reads_nothing_seq_iff.symm
  | cons p ps ih =>
      calc (seqs (p :: (ps ++ qs))).Reads before u after g
          ↔ (Pattern.seq p (seqs (ps ++ qs))).Reads before u after g := reads_seqs_cons
        _ ↔ (Pattern.seq p (.seq (seqs ps) (seqs qs))).Reads before u after g := by
            rw [reads_seq_iff, reads_seq_iff]
            simp only [ih]
        _ ↔ (Pattern.seq (.seq p (seqs ps)) (seqs qs)).Reads before u after g := reads_seq_assoc.symm
        _ ↔ (Pattern.seq (seqs (p :: ps)) (seqs qs)).Reads before u after g := by
            rw [reads_seq_iff, reads_seq_iff]
            simp only [reads_seqs_cons]

/-- A boundary at the start is a condition on the place. -/
theorem reads_boundary_seq_iff :
    (Pattern.seq .boundary a).Reads before u after g ↔
      isBoundary before (u.head?.or after) = true ∧ a.Reads before u after g := by
  constructor
  · intro h
    obtain ⟨s, t, g₁, g₂, rfl, rfl, hplace, ha⟩ := reads_seq_iff.1 h
    obtain ⟨hboundary, rfl, rfl⟩ := reads_boundary_iff.1 hplace
    rw [List.append_nil]
    exact ⟨hboundary, ha⟩
  · rintro ⟨hboundary, ha⟩
    exact reads_seq_iff.2 ⟨[], u, [], g, rfl, (List.append_nil g).symm, .boundary hboundary, ha⟩

/-- A boundary at the end is a condition on what follows. -/
theorem reads_seq_boundary_iff :
    (Pattern.seq a .boundary).Reads before u after g ↔
      a.Reads before u after g ∧ isBoundary (u.getLast?.or before) after = true := by
  constructor
  · intro h
    obtain ⟨s, t, g₁, g₂, rfl, rfl, ha, hplace⟩ := reads_seq_iff.1 h
    obtain ⟨hboundary, rfl, rfl⟩ := reads_boundary_iff.1 hplace
    rw [List.append_nil]
    exact ⟨ha, hboundary⟩
  · rintro ⟨ha, hboundary⟩
    exact reads_seq_iff.2 ⟨u, [], g, [], (List.append_nil u).symm, rfl, ha, .boundary hboundary⟩

/-! ## Choices -/

theorem reads_firstOf_iff {ps : List Pattern} :
    (firstOf ps).Reads before s after g ↔ ∃ p ∈ ps, p.Reads before s after g := by
  induction ps with
  | nil => simp [firstOf, reads_char_iff]
  | cons p ps ih =>
      cases ps with
      | nil => simp [firstOf]
      | cons q ps =>
          change (Pattern.alt p (firstOf (q :: ps))).Reads before s after g ↔ _
          rw [reads_alt_iff, ih]
          simp only [List.mem_cons, exists_eq_or_imp]

/-- One of several texts is read. -/
theorem reads_anyOf_iff {texts : List String} :
    (anyOf texts).Reads before s after g ↔ (∃ text ∈ texts, s = text.toList) ∧ g = [] := by
  rw [anyOf, reads_firstOf_iff]
  constructor
  · rintro ⟨p, hp, hreads⟩
    obtain ⟨text, htext, rfl⟩ := List.mem_map.1 hp
    obtain ⟨rfl, hg⟩ := reads_literal_iff.1 hreads
    exact ⟨⟨text, htext, rfl⟩, hg⟩
  · rintro ⟨⟨text, htext, rfl⟩, rfl⟩
    exact ⟨lit text, List.mem_map.2 ⟨text, htext, rfl⟩, .literal _ _ _⟩

/-- A fixed text is read with its plural ending or without. -/
theorem reads_plural_iff {text : String} :
    (plural text).Reads before s after g ↔
      (s = text.toList ∨ s = text.toList ++ ['s']) ∧ g = [] := by
  constructor
  · intro h
    obtain ⟨s, t, g₁, g₂, rfl, rfl, hword, hending⟩ := reads_seq_iff.1 h
    obtain ⟨rfl, rfl⟩ := reads_literal_iff.1 hword
    rcases reads_opt_iff.1 hending with hgiven | ⟨rfl, rfl⟩
    · obtain ⟨rfl, rfl⟩ := reads_literal_iff.1 hgiven
      exact ⟨.inr rfl, rfl⟩
    · exact ⟨.inl (List.append_nil _), rfl⟩
  · rintro ⟨rfl | rfl, rfl⟩
    · exact reads_seq_iff.2 ⟨_, [], [], [], (List.append_nil _).symm, rfl, .literal _ _ _, .leftOut _ _ _⟩
    · exact reads_seq_iff.2 ⟨_, ['s'], [], [], rfl, rfl, .literal _ _ _, .given (.literal _ _ _)⟩

/-! ## Groups -/

/-- The numbers of the groups of a pattern. -/
def numbers : Pattern → List Nat
  | .char _ | .literal _ | .boundary | .run _ _ _ => []
  | .seq a b | .alt a b => a.numbers ++ b.numbers
  | .opt a => a.numbers
  | .group n a => n :: a.numbers

/-- Only groups that a pattern has are noted down. -/
theorem mem_numbers_of_reads (h : a.Reads before s after g) : ∀ x ∈ g, x.1 ∈ a.numbers := by
  induction h with
  | char | literal | boundary | leftOut | run => simp
  | seq _ _ iha ihb =>
      intro x hx
      rcases List.mem_append.1 hx with hx | hx
      · exact List.mem_append_right _ (ihb x hx)
      · exact List.mem_append_left _ (iha x hx)
  | left _ ih => exact fun x hx => List.mem_append_left _ (ih x hx)
  | right _ ih => exact fun x hx => List.mem_append_right _ (ih x hx)
  | given _ ih => exact ih
  | group n _ ih =>
      intro x hx
      rcases List.mem_cons.1 hx with rfl | hx
      · exact List.mem_cons_self
      · exact List.mem_cons_of_mem _ (ih x hx)

/-- A group that a pattern does not have is not among those that it notes down. -/
theorem lookup_eq_none_of_reads (h : a.Reads before s after g) {n : Nat} (hn : n ∉ a.numbers) :
    g.lookup n = none := by
  rw [List.lookup_eq_none_iff]
  intro x hx
  have hx := mem_numbers_of_reads h x hx
  simp only [bne_iff_ne, ne_eq]
  rintro rfl
  exact hn hx

/-! ## Runs at the end -/

theorem exists_of_head?_ends_seq {p q : Place} (h : ((Pattern.seq a b).ends p).head? = some q) :
    ∃ r ∈ a.ends p, (b.ends r).head? = some q := by
  rw [ends, List.head?_flatMap] at h
  exact List.exists_of_findSome?_eq_some h

end Pattern

/-- The preferred end of a run without an upper bound is where no more of it follows. -/
theorem Place.head?_runs {ok : Char → Bool} {least : Nat} {before : Option Char}
    {groups : List (Nat × List Char)} {cs : List Char} {q : Place}
    (h : (Place.runs ok least none before groups cs).head? = some q) : q.rest.head?.any ok = false := by
  have hhere : ∀ (least : Nat) (p : Place),
      (if least = 0 then [p] else []).head? = some q → q = p ∧ least = 0 := by
    intro least p hp
    split at hp
    · next hleast => exact ⟨(Option.some.inj hp).symm, hleast⟩
    · simp at hp
  induction cs generalizing before least with
  | nil =>
      obtain ⟨rfl, -⟩ := hhere _ _ h
      rfl
  | cons c rest ih =>
      rw [runs, Option.map_none] at h
      split at h
      · rw [List.head?_append] at h
        cases hlonger : (runs ok (least - 1) none (some c) groups rest).head? with
        | some r =>
            rw [hlonger, Option.some_or, Option.some.injEq] at h
            subst h
            exact ih hlonger
        | none =>
            -- Enough has been read, so the run may at least end after this character.
            rw [hlonger, Option.none_or] at h
            obtain ⟨-, rfl⟩ := hhere _ _ h
            have hend : (⟨some c, rest, groups⟩ : Place) ∈ runs ok 0 none (some c) groups rest :=
              mem_runs_iff.2 ⟨[], passes_nil_iff.2 rfl, by simp, Nat.le_refl 0, by simp⟩
            rw [List.head?_eq_none_iff] at hlonger
            rw [Nat.zero_sub] at hlonger
            rw [hlonger] at hend
            exact absurd hend List.not_mem_nil
      · next hstop =>
          obtain ⟨rfl, -⟩ := hhere _ _ h
          simpa using hstop

end Audience.Sentence
