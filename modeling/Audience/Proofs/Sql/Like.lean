import Audience.Proofs.Stored.Compiled
import Mathlib.Data.List.Infix

set_option autoImplicit false

/-! # What patterns match

`Like.Matches` says which texts match a pattern: a percent sign stands for any text, an underscore for
any character, a backslash takes its meaning from the character after it, and any other character stands
for itself. A matcher that tries every rest of the text after a percent sign decides it.

A text that is escaped stands for itself, whatever comes after it (`Like.matches_escape_append_iff`). So the
patterns of conditions on texts match those texts that hold the value of the condition, or start or end with
it, and no others (`Stored.Attribute.predicate_selects_iff`), also where the value is made of percent signs
and backslashes. -/

namespace Audience

namespace Like

/-! ## Matching -/

/-- A text matches a pattern. A pattern that ends with a backslash is matched by nothing. -/
inductive Matches : List Char → List Char → Prop where
  | nil : Matches [] []
  | run (skipped : List Char) {p x : List Char} (h : Matches p x) : Matches ('%' :: p) (skipped ++ x)
  | one (c : Char) {p x : List Char} (h : Matches p x) : Matches ('_' :: p) (c :: x)
  | escaped (c : Char) {p x : List Char} (h : Matches p x) : Matches ('\\' :: c :: p) (c :: x)
  | plain {c : Char} (hc : isSpecial c = false) {p x : List Char} (h : Matches p x) :
      Matches (c :: p) (c :: x)

variable {p x : List Char}

theorem matches_nil_iff : Matches [] x ↔ x = [] := by
  constructor
  · rintro ⟨⟩
    rfl
  · rintro rfl
    exact .nil

theorem matches_run_iff : Matches ('%' :: p) x ↔ ∃ rest, rest <:+ x ∧ Matches p rest := by
  constructor
  · intro h
    cases h with
    | run skipped h => exact ⟨_, List.suffix_append skipped _, h⟩
    | plain hc => simp [isSpecial] at hc
  · rintro ⟨rest, ⟨skipped, rfl⟩, h⟩
    exact .run skipped h

theorem matches_one_iff : Matches ('_' :: p) x ↔ ∃ c rest, x = c :: rest ∧ Matches p rest := by
  constructor
  · intro h
    cases h with
    | one c h => exact ⟨c, _, rfl, h⟩
    | plain hc => simp [isSpecial] at hc
  · rintro ⟨c, rest, rfl, h⟩
    exact .one c h

theorem matches_escaped_iff {c : Char} :
    Matches ('\\' :: c :: p) x ↔ ∃ rest, x = c :: rest ∧ Matches p rest := by
  constructor
  · intro h
    cases h with
    | escaped c h => exact ⟨_, rfl, h⟩
    | plain hc => simp [isSpecial] at hc
  · rintro ⟨rest, rfl, h⟩
    exact .escaped c h

theorem not_matches_backslash : ¬ Matches ['\\'] x := by
  intro h
  cases h with
  | plain hc => simp [isSpecial] at hc

theorem matches_plain_iff {c : Char} (hc : isSpecial c = false) :
    Matches (c :: p) x ↔ ∃ rest, x = c :: rest ∧ Matches p rest := by
  constructor
  · intro h
    cases h with
    | plain _ h => exact ⟨_, rfl, h⟩
    | _ => simp [isSpecial] at hc
  · rintro ⟨rest, rfl, h⟩
    exact .plain hc h

/-! ## A matcher -/

/-- Whether a text starts with a character of some kind and its rest is accepted. -/
def acceptsAfter (kind : Char → Bool) (rest : List Char → Bool) : List Char → Bool
  | [] => false
  | c :: x => kind c && rest x

/-- Whether a text matches a pattern, found out by trying all that a percent sign may stand for. -/
def accepts : List Char → List Char → Bool
  | [] => List.isEmpty
  | '%' :: p => fun x => x.tails.any (accepts p)
  | '_' :: p => acceptsAfter (fun _ => true) (accepts p)
  | ['\\'] => fun _ => false
  | '\\' :: c :: p => acceptsAfter (· == c) (accepts p)
  | c :: p => acceptsAfter (· == c) (accepts p)

theorem acceptsAfter_iff {kind : Char → Bool} {rest : List Char → Bool} :
    acceptsAfter kind rest x = true ↔ ∃ c y, x = c :: y ∧ kind c = true ∧ rest y = true := by
  cases x with
  | nil => simp [acceptsAfter]
  | cons c y => simp [acceptsAfter]

/-- The matcher accepts what matches. -/
theorem accepts_iff (p x : List Char) : accepts p x = true ↔ Matches p x := by
  induction p using accepts.induct generalizing x with
  | case1 => simp [accepts, matches_nil_iff]
  | case2 p ih => simp [accepts, matches_run_iff, ih]
  | case3 p ih => simp [accepts, acceptsAfter_iff, matches_one_iff, ih]
  | case4 => simp [accepts, not_matches_backslash]
  | case5 c p ih => simp [accepts, acceptsAfter_iff, matches_escaped_iff, ih]
  | case6 c p hrun hone hlast hescaped ih =>
      have hbackslash : c ≠ '\\' := by
        intro hc
        cases p with
        | nil => exact hlast hc rfl
        | cons d p => exact hescaped d p hc rfl
      have hplain : isSpecial c = false := by simpa [isSpecial, hbackslash] using ⟨hrun, hone⟩
      simp [accepts, acceptsAfter_iff, matches_plain_iff hplain, ih]

instance (p x : List Char) : Decidable (Matches p x) :=
  decidable_of_iff _ (accepts_iff p x)

example : Matches "1_0\\%%".toList "100% off".toList ∧ ¬ Matches "1_0\\%%".toList "100 off".toList := by
  decide +kernel

/-! ## Texts that stand for themselves -/

/-- An escaped character stands for itself. -/
theorem matches_escapeChar_append_iff {c : Char} :
    Matches (escapeChar c ++ p) x ↔ ∃ rest, x = c :: rest ∧ Matches p rest := by
  unfold escapeChar
  split
  · exact matches_escaped_iff
  · next hc => exact matches_plain_iff (by simpa using hc)

/-- An escaped text stands for itself, whatever comes after it in the pattern. -/
theorem matches_escape_append_iff {s : List Char} :
    Matches (s.flatMap escapeChar ++ p) x ↔ ∃ rest, x = s ++ rest ∧ Matches p rest := by
  induction s generalizing x with
  | nil => simp
  | cons c s ih =>
      -- The first character stands for itself, and an escaped text comes after it again.
      rw [List.flatMap_cons, List.append_assoc, matches_escapeChar_append_iff]
      constructor
      · rintro ⟨_, rfl, htail⟩
        obtain ⟨rest, rfl, h⟩ := ih.1 htail
        exact ⟨rest, rfl, h⟩
      · rintro ⟨rest, rfl, h⟩
        exact ⟨s ++ rest, rfl, ih.2 ⟨rest, rfl, h⟩⟩

theorem matches_escape_iff {s : List Char} : Matches (s.flatMap escapeChar) x ↔ x = s := by
  have h := matches_escape_append_iff (p := []) (x := x) (s := s)
  simpa [matches_nil_iff] using h

/-- A percent sign that ends a pattern leaves the rest of the text open. -/
theorem matches_percent : Matches ['%'] x :=
  matches_run_iff.2 ⟨[], List.nil_suffix, .nil⟩

theorem matches_startingWith_iff {s x : String} :
    Matches (startingWith s).toList x.toList ↔ s.toList <+: x.toList := by
  have hpattern : (startingWith s).toList = s.toList.flatMap escapeChar ++ ['%'] := by
    simp [startingWith, escape]
  rw [hpattern, matches_escape_append_iff]
  constructor
  · rintro ⟨rest, hx, -⟩
    exact ⟨rest, hx.symm⟩
  · rintro ⟨rest, hx⟩
    exact ⟨rest, hx.symm, matches_percent⟩

theorem matches_endingWith_iff {s x : String} :
    Matches (endingWith s).toList x.toList ↔ s.toList <:+ x.toList := by
  have hpattern : (endingWith s).toList = '%' :: s.toList.flatMap escapeChar := by
    simp [endingWith, escape]
  rw [hpattern, matches_run_iff]
  simp only [matches_escape_iff, exists_eq_right]

theorem matches_containing_iff {s x : String} :
    Matches (containing s).toList x.toList ↔ s.toList <:+: x.toList := by
  have hpattern : (containing s).toList = '%' :: (s.toList.flatMap escapeChar ++ ['%']) := by
    simp [containing, escape]
  rw [hpattern, matches_run_iff, List.infix_iff_prefix_suffix]
  simp only [matches_escape_append_iff]
  constructor
  · rintro ⟨_, hsuffix, rest, rfl, -⟩
    exact ⟨_, List.prefix_append _ rest, hsuffix⟩
  · rintro ⟨_, ⟨rest, rfl⟩, hsuffix⟩
    exact ⟨_, hsuffix, rest, rfl, matches_percent⟩

/-- Whether a test selects a text: one that matches the pattern or, if the test is negated, one that does
not. -/
def Selects (negated : Bool) (pattern text : String) : Prop :=
  if negated then ¬ Matches pattern.toList text.toList else Matches pattern.toList text.toList

end Like

/-! ## Conditions on texts -/

/-- What a condition may look for in a text. -/
inductive Search where
  | containing
  | notContaining
  | starting
  | ending
  deriving DecidableEq

namespace Search

/-- The operator that asks for a search. -/
def code : Search → String
  | .containing => "contains"
  | .notContaining => "not_contains"
  | .starting => "starts_with"
  | .ending => "ends_with"

/-- Whether a search for a value finds a text. -/
def Finds (value text : String) : Search → Prop
  | .containing => value.toList <:+: text.toList
  | .notContaining => ¬ value.toList <:+: text.toList
  | .starting => value.toList <+: text.toList
  | .ending => value.toList <:+ text.toList

instance (value text : String) : (search : Search) → Decidable (search.Finds value text)
  | .containing => inferInstanceAs (Decidable (value.toList <:+: text.toList))
  | .notContaining => inferInstanceAs (Decidable (¬ value.toList <:+: text.toList))
  | .starting => inferInstanceAs (Decidable (value.toList <+: text.toList))
  | .ending => inferInstanceAs (Decidable (value.toList <:+ text.toList))

end Search

namespace Stored

/-- **Escaping is exact.** A condition that searches a column of texts becomes a test with a pattern, and
whatever its value, the test selects the texts that the search finds: those that hold the value, do not hold
it, start with it or end with it. -/
theorem Attribute.predicate_selects_iff {a : Attribute} {c : Column} {search : Search}
    (htype : c.type = .text) (hoperator : a.operator = search.code) :
    ∃ negated pattern, a.predicate c = .ok (.like negated c.ref pattern) ∧
      ∀ text : String, Like.Selects negated pattern text ↔ search.Finds a.value text := by
  rw [predicate_eq, htype, hoperator]
  cases search with
  | containing => exact ⟨false, _, rfl, fun text => Like.matches_containing_iff⟩
  | notContaining => exact ⟨true, _, rfl, fun text => not_congr Like.matches_containing_iff⟩
  | starting => exact ⟨false, _, rfl, fun text => Like.matches_startingWith_iff⟩
  | ending => exact ⟨false, _, rfl, fun text => Like.matches_endingWith_iff⟩

/-- A condition on the addresses that hold a percent sign and end with a backslash. -/
def percentAddresses : Attribute :=
  ⟨1, "customers", "email", "ends_with", "100%_\\", "", .and, false, false⟩

/-- A value made of all that is special in patterns is looked for as it is. -/
theorem Attribute.predicate_selects_iff_percent :
    percentAddresses.operator = Search.ending.code ∧
    ∃ negated pattern,
      percentAddresses.predicate ⟨.customers, "email", .text, none⟩
        = .ok (.like negated ⟨"c", "email"⟩ pattern) ∧
      (∀ text : String, Like.Selects negated pattern text ↔ Search.ending.Finds "100%_\\" text) ∧
      Like.Selects negated pattern "me100%_\\" ∧ ¬ Like.Selects negated pattern "me100%25\\" := by
  obtain ⟨negated, pattern, hpredicate, hselects⟩ := predicate_selects_iff
    (c := ⟨.customers, "email", .text, none⟩) rfl
    (show percentAddresses.operator = Search.ending.code from rfl)
  have hfinds : Search.ending.Finds "100%_\\" "me100%_\\" := by decide
  have hmisses : ¬ Search.ending.Finds "100%_\\" "me100%25\\" := by decide
  exact ⟨rfl, negated, pattern, hpredicate, hselects, (hselects _).2 hfinds,
    fun h => hmisses ((hselects _).1 h)⟩

end Stored

end Audience
