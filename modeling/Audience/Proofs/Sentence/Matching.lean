import Audience.Proofs.Sentence.WholeWord
import Audience.Sentence.Pattern

set_option autoImplicit false

/-! # What patterns match

`Pattern.Reads` says what a pattern reads of a text that stands between two characters, by one rule for
each kind of pattern. The places where a match may end are exactly those that the pattern reads up to
(`Pattern.mem_ends_iff`); their order does not matter here. So a match is something that the pattern reads
(`Pattern.reads_of_matchAt?`), and where there is none the pattern reads nothing at all
(`Pattern.matchAt?_eq_none_iff`). A search stops at the first place where there is a match, and passes over
no other (`Pattern.searchFrom?_eq_some`, `Pattern.before_spec`). -/

namespace Audience.Sentence

/-! ## Reading -/

/-- What a pattern reads: a text between two characters, which are missing at the ends of the whole text.
The groups that take part are noted down, the last one first. -/
inductive Pattern.Reads :
    Pattern → Option Char → List Char → Option Char → List (Nat × List Char) → Prop
  | char {ok : Char → Bool} {c : Char} {before after : Option Char} (hok : ok c = true) :
      Reads (.char ok) before [c] after []
  | literal (cs : List Char) (before after : Option Char) : Reads (.literal cs) before cs after []
  | boundary {before after : Option Char} (h : isBoundary before after = true) :
      Reads .boundary before [] after []
  | seq {a b : Pattern} {before after : Option Char} {s t : List Char} {g g' : List (Nat × List Char)}
      (ha : Reads a before s (t.head?.or after) g) (hb : Reads b (s.getLast?.or before) t after g') :
      Reads (.seq a b) before (s ++ t) after (g' ++ g)
  | left {a b : Pattern} {before after : Option Char} {s : List Char} {g : List (Nat × List Char)}
      (ha : Reads a before s after g) : Reads (.alt a b) before s after g
  | right {a b : Pattern} {before after : Option Char} {s : List Char} {g : List (Nat × List Char)}
      (hb : Reads b before s after g) : Reads (.alt a b) before s after g
  | given {a : Pattern} {before after : Option Char} {s : List Char} {g : List (Nat × List Char)}
      (ha : Reads a before s after g) : Reads (.opt a) before s after g
  | leftOut (a : Pattern) (before after : Option Char) : Reads (.opt a) before [] after []
  | run {ok : Char → Bool} {least : Nat} {most : Option Nat} {before after : Option Char}
      {cs : List Char} (hok : ∀ c ∈ cs, ok c = true) (hleast : least ≤ cs.length)
      (hmost : ∀ n ∈ most, cs.length ≤ n) : Reads (.run ok least most) before cs after []
  | group {a : Pattern} {before after : Option Char} {s : List Char} {g : List (Nat × List Char)}
      (n : Nat) (ha : Reads a before s after g) : Reads (.group n a) before s after ((n, s) :: g)

/-! ## Places -/

namespace Place

/-- Whether a place lies behind another, with a text between them and some groups noted down. -/
def Passes (p : Place) (s : List Char) (g : List (Nat × List Char)) (q : Place) : Prop :=
  p.rest = s ++ q.rest ∧ q.before = s.getLast?.or p.before ∧ q.groups = g ++ p.groups

theorem passes_nil_iff {p q : Place} : p.Passes [] [] q ↔ q = p := by
  obtain ⟨before, rest, groups⟩ := p
  obtain ⟨before', rest', groups'⟩ := q
  simp only [Passes, List.nil_append, List.getLast?_nil, Option.none_or, Place.mk.injEq]
  constructor
  · rintro ⟨h1, h2, h3⟩
    exact ⟨h2, h1.symm, h3⟩
  · rintro ⟨h1, h2, h3⟩
    exact ⟨h2.symm, h1, h3⟩

theorem Passes.trans {p q r : Place} {s t : List Char} {g g' : List (Nat × List Char)}
    (h : p.Passes s g q) (h' : q.Passes t g' r) : p.Passes (s ++ t) (g' ++ g) r := by
  obtain ⟨hrest, hbefore, hgroups⟩ := h
  obtain ⟨hrest', hbefore', hgroups'⟩ := h'
  refine ⟨by rw [hrest, hrest', List.append_assoc], ?_, by rw [hgroups', hgroups, List.append_assoc]⟩
  rw [hbefore', hbefore, List.getLast?_append, Option.or_assoc]

/-- What is passed in two parts is passed through a place between them. -/
theorem Passes.exists_between {p r : Place} {s t : List Char} {g g' : List (Nat × List Char)}
    (h : p.Passes (s ++ t) (g' ++ g) r) : ∃ q, p.Passes s g q ∧ q.Passes t g' r := by
  obtain ⟨hrest, hbefore, hgroups⟩ := h
  refine ⟨⟨s.getLast?.or p.before, t ++ r.rest, g ++ p.groups⟩, ⟨?_, rfl, rfl⟩, rfl, ?_, ?_⟩
  · rw [hrest, List.append_assoc]
  · rw [hbefore, List.getLast?_append, Option.or_assoc]
  · rw [hgroups, List.append_assoc]

theorem Passes.head? {p q : Place} {s : List Char} {g : List (Nat × List Char)} (h : p.Passes s g q) :
    p.rest.head? = s.head?.or q.rest.head? := by
  rw [h.1, List.head?_append]

theorem Passes.textTo {p q : Place} {s : List Char} {g : List (Nat × List Char)} (h : p.Passes s g q) :
    p.textTo q = s := by
  rw [Place.textTo, h.1, List.length_append, Nat.add_sub_cancel, List.take_left]

/-- A literal is passed where the text goes on with it. -/
theorem pass_eq_some_iff {cs : List Char} {p q : Place} : p.pass cs = some q ↔ p.Passes cs [] q := by
  induction cs generalizing p with
  | nil =>
      rw [pass, Option.some.injEq, passes_nil_iff, eq_comm]
  | cons c cs ih =>
      obtain ⟨before, rest, groups⟩ := p
      cases rest with
      | nil => simp [pass, Passes]
      | cons d rest =>
          rw [pass]
          split
          · next hcd =>
              subst hcd
              rw [ih]
              simp [Passes, getLast?_cons_or]
          · next hcd => simp [Passes, Ne.symm hcd]

/-- A text that is passed begins with the next character. -/
theorem passes_cons_iff {before : Option Char} {c d : Char} {rest s : List Char}
    {groups g : List (Nat × List Char)} {q : Place} :
    Passes ⟨before, c :: rest, groups⟩ (d :: s) g q ↔
      d = c ∧ Passes ⟨some c, rest, groups⟩ s g q := by
  simp only [Passes, List.cons_append, List.cons.injEq, getLast?_cons_or]
  constructor
  · rintro ⟨⟨rfl, hrest⟩, hbefore, hgroups⟩
    exact ⟨rfl, hrest, hbefore, hgroups⟩
  · rintro ⟨rfl, hrest, hbefore, hgroups⟩
    exact ⟨⟨rfl, hrest⟩, hbefore, hgroups⟩

/-- At the end of a text nothing is passed. -/
theorem passes_end_iff {before : Option Char} {s : List Char} {groups g : List (Nat × List Char)}
    {q : Place} : Passes ⟨before, [], groups⟩ s g q ↔
      s = [] ∧ q.rest = [] ∧ q.before = before ∧ q.groups = g ++ groups := by
  simp only [Passes]
  constructor
  · rintro ⟨hrest, hbefore, hgroups⟩
    obtain ⟨rfl, hnil⟩ := List.append_eq_nil_iff.1 hrest.symm
    exact ⟨rfl, hnil, by simpa using hbefore, hgroups⟩
  · rintro ⟨rfl, hnil, hbefore, hgroups⟩
    exact ⟨by simp [hnil], by simpa using hbefore, hgroups⟩

/-- A run passes any number of its characters that is enough and not too many. -/
theorem mem_runs_iff {ok : Char → Bool} {least : Nat} {most : Option Nat} {before : Option Char}
    {groups : List (Nat × List Char)} {cs : List Char} {q : Place} :
    q ∈ runs ok least most before groups cs ↔
      ∃ s, Passes ⟨before, cs, groups⟩ s [] q ∧ (∀ c ∈ s, ok c = true) ∧ least ≤ s.length ∧
        ∀ n ∈ most, s.length ≤ n := by
  have hhere : ∀ (least : Nat) (p : Place), q ∈ (if least = 0 then [p] else []) ↔
      p.Passes [] [] q ∧ least ≤ 0 := by
    intro least p
    rw [passes_nil_iff]
    split <;> simp_all
  induction cs generalizing before least most with
  | nil =>
      rw [runs, hhere]
      constructor
      · rintro ⟨hpasses, hleast⟩
        exact ⟨[], hpasses, by simp, hleast, by simp⟩
      · rintro ⟨s, hpasses, -, hleast, -⟩
        obtain rfl := (passes_end_iff.1 hpasses).1
        exact ⟨hpasses, hleast⟩
  | cons c rest ih =>
      have hcount : ∀ n : Nat, (∀ m ∈ most, n + 1 ≤ m) ↔
          (most != some 0) = true ∧ ∀ m ∈ most.map (· - 1), n ≤ m := by
        intro n
        cases most with
        | none => simp
        | some m =>
            simp only [Option.mem_def, Option.some.injEq, forall_eq', Option.map_some, bne_iff_ne, ne_eq]
            omega
      have hfirst : ∀ p : Place, p.Passes [] [] q ∧ least ≤ 0 →
          ∃ s, p.Passes s [] q ∧ (∀ d ∈ s, ok d = true) ∧ least ≤ s.length ∧ ∀ n ∈ most, s.length ≤ n :=
        fun p h => ⟨[], h.1, by simp, h.2, by simp⟩
      rw [runs]
      by_cases hgo : (ok c && most != some 0) = true
      · have hrest : q ∈ runs ok (least - 1) (most.map (· - 1)) (some c) groups rest ↔ _ := ih
        rw [if_pos hgo, List.mem_append, hrest, hhere]
        rw [Bool.and_eq_true] at hgo
        constructor
        · rintro (⟨s, hpasses, hok, hleast, hmost⟩ | hpasses)
          · refine ⟨c :: s, passes_cons_iff.2 ⟨rfl, hpasses⟩, List.forall_mem_cons.2 ⟨hgo.1, hok⟩, ?_,
              (hcount _).2 ⟨hgo.2, hmost⟩⟩
            rw [List.length_cons]
            omega
          · exact hfirst _ hpasses
        · rintro ⟨s, hpasses, hok, hleast, hmost⟩
          cases s with
          | nil => exact .inr ⟨hpasses, hleast⟩
          | cons d s =>
              rw [List.length_cons] at hleast
              exact .inl ⟨s, (passes_cons_iff.1 hpasses).2, (List.forall_mem_cons.1 hok).2, by omega,
                ((hcount _).1 hmost).2⟩
      · rw [if_neg hgo, hhere]
        refine ⟨hfirst _, ?_⟩
        rintro ⟨s, hpasses, hok, hleast, hmost⟩
        cases s with
        | nil => exact ⟨hpasses, hleast⟩
        | cons d s =>
            obtain ⟨rfl, -⟩ := passes_cons_iff.1 hpasses
            rw [(List.forall_mem_cons.1 hok).1, ((hcount _).1 hmost).1] at hgo
            simp at hgo

end Place

/-! ## The matcher -/

open Place

/-- **The ends of matches.** A match may end where the pattern reads the text before, and nowhere else. -/
theorem Pattern.mem_ends_iff {pattern : Pattern} {p q : Place} :
    q ∈ pattern.ends p ↔
      ∃ s g, p.Passes s g q ∧ pattern.Reads p.before s q.rest.head? g := by
  induction pattern generalizing p q with
  | char ok =>
      obtain ⟨before, rest, groups⟩ := p
      constructor
      · intro h
        cases rest with
        | nil => simp [ends] at h
        | cons c rest =>
            by_cases hok : ok c = true
            · simp only [ends, hok, if_true, List.mem_singleton] at h
              subst h
              exact ⟨[c], [], ⟨rfl, rfl, rfl⟩, .char hok⟩
            · simp [ends, hok] at h
      · rintro ⟨s, g, hpasses, hreads⟩
        cases hreads with
        | @char _ c _ _ hok =>
            obtain ⟨hrest, hbefore, hgroups⟩ := hpasses
            obtain ⟨before', rest', groups'⟩ := q
            simp only at hrest hbefore hgroups
            subst hrest hbefore hgroups
            simp [ends, hok]
  | literal cs =>
      rw [ends, Option.mem_toList, pass_eq_some_iff]
      constructor
      · intro h
        exact ⟨cs, [], h, .literal _ _ _⟩
      · rintro ⟨s, g, hpasses, hreads⟩
        cases hreads
        exact hpasses
  | boundary =>
      rw [ends]
      constructor
      · intro h
        split at h
        · next hboundary =>
            obtain rfl := List.mem_singleton.1 h
            exact ⟨[], [], passes_nil_iff.2 rfl, .boundary hboundary⟩
        · simp at h
      · rintro ⟨s, g, hpasses, hreads⟩
        cases hreads with
        | boundary hboundary =>
            obtain rfl := passes_nil_iff.1 hpasses
            rw [if_pos hboundary]
            exact List.mem_singleton_self _
  | seq a b iha ihb =>
      rw [ends, List.mem_flatMap]
      constructor
      · rintro ⟨r, hr, hq⟩
        obtain ⟨s, g, hs, ha⟩ := iha.1 hr
        obtain ⟨t, g', ht, hb⟩ := ihb.1 hq
        rw [ht.head?] at ha
        rw [hs.2.1] at hb
        exact ⟨s ++ t, g' ++ g, hs.trans ht, .seq ha hb⟩
      · rintro ⟨u, g, hpasses, hreads⟩
        cases hreads with
        | @seq _ _ _ _ s t g g' ha hb =>
            obtain ⟨r, hs, ht⟩ := hpasses.exists_between
            rw [← ht.head?] at ha
            rw [← hs.2.1] at hb
            exact ⟨r, iha.2 ⟨s, g, hs, ha⟩, ihb.2 ⟨t, g', ht, hb⟩⟩
  | alt a b iha ihb =>
      rw [ends, List.mem_append, iha, ihb]
      constructor
      · rintro (⟨s, g, hpasses, hreads⟩ | ⟨s, g, hpasses, hreads⟩)
        · exact ⟨s, g, hpasses, .left hreads⟩
        · exact ⟨s, g, hpasses, .right hreads⟩
      · rintro ⟨s, g, hpasses, hreads⟩
        cases hreads with
        | left ha => exact .inl ⟨s, g, hpasses, ha⟩
        | right hb => exact .inr ⟨s, g, hpasses, hb⟩
  | opt a ih =>
      rw [ends, List.mem_append, ih, List.mem_singleton]
      constructor
      · rintro (⟨s, g, hpasses, hreads⟩ | rfl)
        · exact ⟨s, g, hpasses, .given hreads⟩
        · exact ⟨[], [], passes_nil_iff.2 rfl, .leftOut _ _ _⟩
      · rintro ⟨s, g, hpasses, hreads⟩
        cases hreads with
        | given ha => exact .inl ⟨s, g, hpasses, ha⟩
        | leftOut => exact .inr (passes_nil_iff.1 hpasses)
  | run ok least most =>
      rw [ends, mem_runs_iff]
      constructor
      · rintro ⟨s, hpasses, hok, hleast, hmost⟩
        exact ⟨s, [], hpasses, .run hok hleast hmost⟩
      · rintro ⟨s, g, hpasses, hreads⟩
        cases hreads with
        | run hok hleast hmost => exact ⟨s, hpasses, hok, hleast, hmost⟩
  | group n a ih =>
      rw [ends, List.mem_map]
      constructor
      · rintro ⟨r, hr, rfl⟩
        obtain ⟨s, g, hpasses, hreads⟩ := ih.1 hr
        refine ⟨s, (n, s) :: g, ⟨hpasses.1, hpasses.2.1, ?_⟩, .group n hreads⟩
        rw [hpasses.textTo, hpasses.2.2, List.cons_append]
      · rintro ⟨s, g, hpasses, hreads⟩
        cases hreads with
        | @group _ _ _ _ g _ ha =>
            obtain ⟨before', rest', groups'⟩ := q
            have hinner : p.Passes s g ⟨before', rest', g ++ p.groups⟩ := ⟨hpasses.1, hpasses.2.1, rfl⟩
            refine ⟨_, ih.2 ⟨s, g, hinner, ha⟩, ?_⟩
            rw [hinner.textTo, Place.mk.injEq]
            exact ⟨rfl, rfl, hpasses.2.2.symm⟩

/-! ## Searching -/

section Search

variable {pattern : Pattern} {before : Option Char} {cs : List Char} {m : Match}

/-- A match is a text that the pattern reads. -/
theorem Pattern.reads_of_matchAt? (h : pattern.matchAt? before cs = some m) :
    cs = m.text ++ m.rest ∧ pattern.Reads before m.text m.rest.head? m.groups := by
  obtain ⟨q, hq, rfl⟩ := Option.map_eq_some_iff.1 h
  obtain ⟨s, g, hpasses, hreads⟩ := mem_ends_iff.1 (List.mem_of_head? hq)
  have htext : cs.take (cs.length - q.rest.length) = s := hpasses.textTo
  obtain ⟨hrest, -, hgroups⟩ := hpasses
  dsimp only at hrest hgroups ⊢
  rw [htext, hgroups, List.append_nil]
  exact ⟨hrest, hreads⟩

/-- Without a match the pattern reads nothing. -/
theorem Pattern.matchAt?_eq_none_iff :
    pattern.matchAt? before cs = none ↔
      ∀ s rest g, cs = s ++ rest → ¬ pattern.Reads before s rest.head? g := by
  rw [matchAt?, Option.map_eq_none_iff, List.head?_eq_none_iff, List.eq_nil_iff_forall_not_mem]
  constructor
  · rintro h s rest g rfl hreads
    exact h ⟨s.getLast?.or before, rest, g⟩
      (mem_ends_iff.2 ⟨s, g, ⟨rfl, rfl, (List.append_nil g).symm⟩, hreads⟩)
  · intro h q hq
    obtain ⟨s, g, hpasses, hreads⟩ := mem_ends_iff.1 hq
    exact h s q.rest g hpasses.1 hreads

/-- A search stops at the first place where there is a match. -/
theorem Pattern.searchFrom?_eq_some {skipped : List Char}
    (h : pattern.searchFrom? before cs = some (skipped, m)) :
    ∃ tail, cs = skipped ++ tail ∧ pattern.matchAt? (skipped.getLast?.or before) tail = some m ∧
      ∀ a b, skipped = a ++ b → b ≠ [] →
        pattern.matchAt? (a.getLast?.or before) (b ++ tail) = none := by
  induction cs generalizing before skipped with
  | nil =>
      obtain ⟨m', hm, hpair⟩ := Option.map_eq_some_iff.1 h
      obtain ⟨rfl, rfl⟩ := Prod.mk.inj hpair
      refine ⟨[], rfl, hm, fun a b hab hb => ?_⟩
      exact absurd (List.append_eq_nil_iff.1 hab.symm).2 hb
  | cons c rest ih =>
      rw [searchFrom?] at h
      cases hhere : pattern.matchAt? before (c :: rest) with
      | some m' =>
          rw [hhere] at h
          obtain ⟨rfl, rfl⟩ := Prod.mk.inj (Option.some.inj h)
          refine ⟨c :: rest, rfl, hhere, fun a b hab hb => ?_⟩
          exact absurd (List.append_eq_nil_iff.1 hab.symm).2 hb
      | none =>
          rw [hhere] at h
          obtain ⟨⟨skipped', m'⟩, hrest, hpair⟩ := Option.map_eq_some_iff.1 h
          obtain ⟨rfl, rfl⟩ := Prod.mk.inj hpair
          obtain ⟨tail, rfl, hm, hearlier⟩ := ih hrest
          refine ⟨tail, rfl, by rwa [getLast?_cons_or], fun a b hab hb => ?_⟩
          cases a with
          | nil =>
              obtain rfl : c :: skipped' = b := hab
              exact hhere
          | cons d a =>
              obtain ⟨rfl, hsplit⟩ := List.cons.inj hab
              rw [getLast?_cons_or]
              exact hearlier a b hsplit hb

/-- A search that fails has found no match at any place. -/
theorem Pattern.searchFrom?_eq_none (h : pattern.searchFrom? before cs = none) {a b : List Char}
    (hcs : cs = a ++ b) : pattern.matchAt? (a.getLast?.or before) b = none := by
  induction cs generalizing before a with
  | nil =>
      obtain ⟨rfl, rfl⟩ := List.append_eq_nil_iff.1 hcs.symm
      exact Option.map_eq_none_iff.1 h
  | cons c rest ih =>
      rw [searchFrom?] at h
      cases hhere : pattern.matchAt? before (c :: rest) with
      | some m' => simp [hhere] at h
      | none =>
          rw [hhere, Option.map_eq_none_iff] at h
          cases a with
          | nil =>
              obtain rfl : c :: rest = b := hcs
              exact hhere
          | cons d a =>
              obtain ⟨rfl, hrest⟩ := List.cons.inj hcs
              rw [getLast?_cons_or]
              exact ih h hrest

/-- What is found in a text stands in it and is read there. -/
theorem Pattern.reads_of_search? (h : pattern.search? cs = some m) :
    ∃ skipped, cs = skipped ++ m.text ++ m.rest ∧
      pattern.Reads skipped.getLast? m.text m.rest.head? m.groups := by
  obtain ⟨⟨skipped, m'⟩, hsearch, rfl⟩ := Option.map_eq_some_iff.1 h
  obtain ⟨tail, rfl, hm, -⟩ := searchFrom?_eq_some hsearch
  rw [Option.or_none] at hm
  obtain ⟨rfl, hreads⟩ := reads_of_matchAt? hm
  exact ⟨skipped, (List.append_assoc _ _ _).symm, hreads⟩

/-- The text before the first match: nothing that is read anywhere in the text begins in it, and after it
comes what is read first, unless it is the whole text. -/
theorem Pattern.before_spec (pattern : Pattern) (cs : List Char) :
    ∃ tail, cs = pattern.before cs ++ tail ∧
      (∀ a s b g, cs = a ++ s ++ b → pattern.Reads a.getLast? s b.head? g →
        (pattern.before cs).length ≤ a.length) ∧
      (tail = [] ∨ ∃ s b g, tail = s ++ b ∧
        pattern.Reads (pattern.before cs).getLast? s b.head? g) := by
  cases hsearch : pattern.searchFrom? none cs with
  | none =>
      have hbefore : pattern.before cs = cs := by rw [Pattern.before, hsearch]
      rw [hbefore]
      refine ⟨[], (List.append_nil cs).symm, fun a s b g hcs hreads => ?_, .inl rfl⟩
      rw [List.append_assoc] at hcs
      have hnone := searchFrom?_eq_none hsearch hcs
      rw [Option.or_none] at hnone
      exact absurd hreads (matchAt?_eq_none_iff.1 hnone s b g rfl)
  | some found =>
      obtain ⟨skipped, m⟩ := found
      have hbefore : pattern.before cs = skipped := by rw [Pattern.before, hsearch]
      rw [hbefore]
      obtain ⟨tail, hcs, hm, hearlier⟩ := searchFrom?_eq_some hsearch
      rw [Option.or_none] at hm
      obtain ⟨htail, hreads⟩ := reads_of_matchAt? hm
      refine ⟨tail, hcs, fun a s b g hsplit hread => ?_, .inr ⟨m.text, m.rest, m.groups, htail, hreads⟩⟩
      refine Nat.le_of_not_lt fun hlt => ?_
      have hsplit' : a ++ (s ++ b) = skipped ++ tail := by rw [← List.append_assoc, ← hsplit, hcs]
      -- A place before the match that was found has none.
      obtain ⟨b', rfl⟩ : a <+: skipped :=
        List.prefix_of_prefix_length_le (List.prefix_append a (s ++ b))
          (hsplit' ▸ List.prefix_append skipped tail) (by omega)
      have hne : b' ≠ [] := by
        rintro rfl
        simp at hlt
      rw [List.append_assoc] at hsplit'
      have hnone := hearlier a b' rfl hne
      rw [Option.or_none] at hnone
      exact matchAt?_eq_none_iff.1 hnone s b g (List.append_cancel_left hsplit').symm hread

/-- Each of all matches is a match at a place of the text. -/
theorem Pattern.exists_of_mem_matchesFrom {skip : Nat} (h : m ∈ pattern.matchesFrom skip before cs) :
    ∃ passed tail, cs = passed ++ tail ∧
      pattern.matchAt? (passed.getLast?.or before) tail = some m := by
  induction cs generalizing before skip with
  | nil => simp [matchesFrom] at h
  | cons c rest ih =>
      have hlater : ∀ skip', m ∈ pattern.matchesFrom skip' (some c) rest →
          ∃ passed tail, c :: rest = passed ++ tail ∧
            pattern.matchAt? (passed.getLast?.or before) tail = some m := by
        intro skip' hmem
        obtain ⟨passed, tail, rfl, hm⟩ := ih hmem
        exact ⟨c :: passed, tail, rfl, by rwa [getLast?_cons_or]⟩
      rw [matchesFrom.eq_def] at h
      dsimp only at h
      split at h
      · exact hlater _ h
      · split at h
        · next m' hhere =>
            rcases List.mem_cons.1 h with rfl | h
            · exact ⟨[], c :: rest, rfl, hhere⟩
            · exact hlater _ h
        · exact hlater _ h

end Search

end Audience.Sentence
