import Audience.Proofs.Text.CodePoint
import Audience.Sentence.Pattern

set_option autoImplicit false

/-! # Whole words

A text stands in another as a whole word when there is a word boundary on either side of it
(`StandsIn`). Next to a word character, a boundary is a character that belongs to no word, or an end of
the text; so the first run of word characters is the same in a text and in what goes on with such a
character (`takeWhile_append_of_head`). -/

namespace Audience

/-- What stands first in a text goes on no further than the text if its continuation does not begin with
more of it. -/
theorem takeWhile_append_of_head {α : Type} {p : α → Bool} (s : List α) {t : List α}
    (h : t.head?.any p = false) : (s ++ t).takeWhile p = s.takeWhile p := by
  induction s with
  | nil =>
      cases t with
      | nil => rfl
      | cons a t =>
          have ha : ¬ p a = true := by simpa using h
          exact List.takeWhile_cons_of_neg ha
  | cons a s ih => simp only [List.cons_append, List.takeWhile_cons, ih]

/-- What stands first in a text goes on no further than the text if that ends with something else. -/
theorem takeWhile_append_of_getLast {α : Type} {p : α → Bool} {s t : List α} (hne : s ≠ [])
    (h : s.getLast?.any p = false) : (s ++ t).takeWhile p = s.takeWhile p := by
  rw [List.takeWhile_append, if_neg]
  intro hlength
  have hall : s.takeWhile p = s := (List.takeWhile_prefix p).eq_of_length hlength
  have hlast : p (s.getLast hne) = true := by
    have hmem : s.getLast hne ∈ s.takeWhile p := hall.symm ▸ List.getLast_mem hne
    exact List.all_eq_true.1 List.all_takeWhile _ hmem
  rw [List.getLast?_eq_some_getLast hne, Option.any_some, hlast] at h
  exact absurd h (by decide)

/-- A text that is put in front of another leaves its last item last. -/
theorem any_getLast?_append {α : Type} {p : α → Bool} (s : List α) {t : List α}
    (h : t.getLast?.any p = true) : (s ++ t).getLast?.any p = true := by
  rw [List.getLast?_append]
  cases hlast : t.getLast? with
  | none => simp [hlast] at h
  | some a => rwa [hlast] at h

/-- The last item of a list that is continued. -/
theorem getLast?_cons_or {α : Type} (a : α) (s : List α) (before : Option α) :
    (a :: s).getLast?.or before = s.getLast?.or (some a) := by
  cases h : s.getLast? <;> simp [List.getLast?_cons, h]

namespace Text

/-- No blank belongs to a word. -/
theorem isWord_of_isBlank {c : Char} (h : isBlank c = true) : isWord c = false := by
  have hapart : runBits blankRanges &&& runBits wordRanges = 0 := by decide +kernel
  have hbit : (runBits blankRanges &&& runBits wordRanges).testBit c.toNat = false := by
    rw [hapart, Nat.zero_testBit]
  rw [isBlank, inRanges_eq_testBit] at h
  rw [Nat.testBit_and, h, Bool.true_and] at hbit
  rw [isWord, inRanges_eq_testBit, hbit]

end Text

namespace Sentence

/-- Whether a text stands in another as a whole word. -/
def StandsIn (w cs : List Char) : Prop :=
  ∃ a b, cs = a ++ w ++ b ∧ isBoundary a.getLast? w.head? = true ∧
    isBoundary w.getLast? b.head? = true

/-- After a word character, a boundary is where the word ends. -/
theorem isBoundary_iff_of_word {before after : Option Char} (h : before.any Text.isWord = true) :
    isBoundary before after = true ↔ after.any Text.isWord = false := by
  simp [isBoundary, h]

/-- Only what is known of the two characters as characters of words decides about a boundary. -/
theorem isBoundary_congr {before before' : Option Char}
    (h : before'.any Text.isWord = before.any Text.isWord) (after : Option Char) :
    isBoundary before' after = isBoundary before after := by
  rw [isBoundary, isBoundary, h]

end Sentence

end Audience
