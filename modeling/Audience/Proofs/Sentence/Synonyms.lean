import Audience.Sentence.Entities

set_option autoImplicit false

/-! # Texts without synonyms

Phrases are tried with the longest first, but whether one stands at a place at all does not depend on the
order (`phraseAt?_eq_none_iff`). A text in which none does is left as it is
(`replaceSynonyms_eq_self`). -/

namespace Audience.Sentence

/-- Whether a phrase stands at a place as a whole word. -/
def standsAt (before : Option Char) (cs phrase : List Char) : Bool :=
  isBoundary before cs.head? && (phrase.isPrefixOf cs &&
    isBoundary phrase.getLast? (cs.drop phrase.length).head?)

/-- A phrase is replaced at a place when one of the list stands there. -/
theorem phraseAt?_eq_none_iff {before : Option Char} {cs : List Char} :
    phraseAt? before cs = none ↔ ∀ row ∈ synonyms, standsAt before cs row.1.toList = false := by
  have hphrases : ∀ p : List Char × List Char → Bool,
      phrases.find? p = none ↔ ∀ row ∈ synonyms, p (row.1.toList, row.2.toList) = false := by
    intro p
    simp only [List.find?_eq_none, phrases, List.mem_mergeSort, List.forall_mem_map, Bool.not_eq_true]
  unfold phraseAt?
  split
  · next hboundary => simp only [hphrases, standsAt, hboundary, Bool.true_and]
  · next hboundary => simp [standsAt, hboundary]

/-- Whether no phrase stands at any place of a text. -/
def isPlain (before : Option Char) : List Char → Bool
  | [] => true
  | c :: rest =>
    synonyms.all (fun row => !standsAt before (c :: rest) row.1.toList) && isPlain (some c) rest

theorem replaceFrom_eq_self {before : Option Char} {cs : List Char} (h : isPlain before cs = true) :
    replaceFrom 0 before cs = cs := by
  induction cs generalizing before with
  | nil => rfl
  | cons c rest ih =>
      rw [isPlain, Bool.and_eq_true, List.all_eq_true] at h
      obtain ⟨hnone, hrest⟩ := h
      have hphrase : phraseAt? before (c :: rest) = none := by
        rw [phraseAt?_eq_none_iff]
        intro row hrow
        simpa using hnone row hrow
      rw [replaceFrom, hphrase]
      exact congrArg (c :: ·) (ih hrest)

/-- A text without synonyms is left as it is. -/
theorem replaceSynonyms_eq_self {cs : List Char} (h : isPlain none cs = true) :
    replaceSynonyms cs = cs :=
  replaceFrom_eq_self h

/-- A text in lower case without synonyms is read as it is. -/
theorem entities_eq_mentioned {text : String} (hlower : Text.lower text.toList = text.toList)
    (hplain : isPlain none text.toList = true) : entities text = mentioned text.toList := by
  rw [entities, hlower, replaceSynonyms_eq_self hplain]

end Audience.Sentence
