import Mathlib.Data.List.Infix
import Audience.Proofs.Sentence.Synonyms
import Audience.Proofs.Sentence.WholeWord
import Audience.Proofs.Text.Fold

set_option autoImplicit false

/-! # Synonyms are replaced once and for all

A replacement might complete a phrase with what stands beside it, or begin one. Neither happens: where a
part of a phrase begins, no replacement does, and where a part of a replacement begins, no phrase does
(`phrases_apart`). So a phrase that stands in a text after a pass stood there before it
(`Replaced.source`), where the pass would have replaced it. A second pass changes nothing, and a text is
read the same after the first (`synonyms_replaced_once`). -/

namespace Audience.Sentence

/-! ## The words of phrases and of replacements -/

/-- Words with spaces between them, and a word at either end. -/
structure IsPhrase (cs : List Char) : Prop where
  spaced : ∀ c ∈ cs, c = ' ' ∨ Text.isWord c = true
  starts : cs.head?.any Text.isWord = true
  ends : cs.getLast?.any Text.isWord = true

theorem IsPhrase.ne_nil {cs : List Char} (h : IsPhrase cs) : cs ≠ [] := by
  rintro rfl
  simpa using h.starts

theorem IsPhrase.head_append {cs : List Char} (h : IsPhrase cs) (rest : List Char) :
    (cs ++ rest).head?.any Text.isWord = true := by
  have hstarts := h.starts
  cases cs with
  | nil => simp at hstarts
  | cons c cs => exact hstarts

theorem IsPhrase.last_or {cs : List Char} (h : IsPhrase cs) (before : Option Char) :
    (cs.getLast?.or before).any Text.isWord = true := by
  have hends := h.ends
  cases hlast : cs.getLast? with
  | none => simp [hlast] at hends
  | some c => rwa [hlast] at hends

/-- A number for the first word of a phrase: its characters are taken for digits, modulo a prime. Words of
different numbers differ. -/
def headNumber (cs : List Char) : Nat :=
  (cs.takeWhile (· != ' ')).foldl (fun n c => (137 * n + c.toNat) % 1000003) 0

/-- The numbers of the first words of some phrases, as the bits of a number. -/
def headBits (texts : List (List Char)) : Nat :=
  Text.runBits (texts.map fun cs => (headNumber cs, headNumber cs))

theorem testBit_headBits {texts : List (List Char)} {cs : List Char} (h : cs ∈ texts) :
    (headBits texts).testBit (headNumber cs) = true := by
  rw [headBits, Text.testBit_runBits, List.any_map, List.any_eq_true]
  exact ⟨cs, h, by simp⟩

/-- The tables are looked through once, and words are told apart by their numbers: to compare them in pairs
would take long. -/
theorem phrases_apart :
    (let bits := Text.runBits Text.wordRanges
     let phrases := synonyms.map fun row => row.1.toList
     let replacements := synonyms.map fun row => row.2.toList
     let phraseHeads := headBits phrases
     let replacementHeads := headBits replacements
     ((phrases ++ replacements).all fun cs => (cs.all fun c => c == ' ' || bits.testBit c.toNat)
        && (cs.head?.any fun c => bits.testBit c.toNat) && cs.getLast?.any fun c => bits.testBit c.toNat)
      && (phrases.all fun cs => cs.tails.all fun s =>
        s.isEmpty || !replacementHeads.testBit (headNumber s))
      && (replacements.all fun cs => cs.tails.all fun s =>
        s.isEmpty || !phraseHeads.testBit (headNumber s))) = true := by
  decide +kernel

/-- Texts of words with spaces between them begin with words of the same number if they begin with the
same word. -/
theorem headNumber_congr {s t : List Char} (hs : ∀ c ∈ s, c = ' ' ∨ Text.isWord c = true)
    (ht : ∀ c ∈ t, c = ' ' ∨ Text.isWord c = true)
    (h : s.takeWhile Text.isWord = t.takeWhile Text.isWord) : headNumber s = headNumber t := by
  have hspace : Text.isWord ' ' = false := Text.isWord_of_isBlank Text.isBlank_space
  have hword : ∀ cs : List Char, (∀ c ∈ cs, c = ' ' ∨ Text.isWord c = true) →
      cs.takeWhile (· != ' ') = cs.takeWhile Text.isWord := by
    intro cs hcs
    induction cs with
    | nil => rfl
    | cons c cs ih =>
        have hrest := ih fun d hd => hcs d (List.mem_cons_of_mem _ hd)
        rcases hcs c List.mem_cons_self with rfl | hc
        · simp [hspace]
        · have hne : c ≠ ' ' := by
            rintro rfl
            simp [hspace] at hc
          simp [hc, hne, hrest]
  rw [headNumber, headNumber, hword s hs, hword t ht, h]

/-- A text that begins with the number of no phrase begins with the word of none. -/
theorem takeWhile_ne_of_testBit {texts : List (List Char)} {s t : List Char}
    (hs : ∀ c ∈ s, c = ' ' ∨ Text.isWord c = true) (ht : IsPhrase t) (hmem : t ∈ texts)
    (hbit : (headBits texts).testBit (headNumber s) = false) :
    s.takeWhile Text.isWord ≠ t.takeWhile Text.isWord := by
  intro hhead
  rw [headNumber_congr hs ht.spaced hhead, testBit_headBits hmem] at hbit
  simp at hbit

section Rows

variable {row row' : String × String}

theorem isPhrase_of_mem (h : row ∈ synonyms) : IsPhrase row.1.toList ∧ IsPhrase row.2.toList := by
  have htables := phrases_apart
  simp only [Bool.and_eq_true, List.all_eq_true, Bool.or_eq_true, beq_iff_eq,
    ← Text.inRanges_eq_testBit] at htables
  have hphrase : ∀ cs, cs ∈ synonyms.map (fun row => row.1.toList) ++
      synonyms.map (fun row => row.2.toList) → IsPhrase cs := by
    intro cs hcs
    obtain ⟨⟨hspaced, hstarts⟩, hends⟩ := htables.1.1 cs hcs
    exact ⟨hspaced, hstarts, hends⟩
  exact ⟨hphrase _ (List.mem_append_left _ (List.mem_map.2 ⟨row, h, rfl⟩)),
    hphrase _ (List.mem_append_right _ (List.mem_map.2 ⟨row, h, rfl⟩))⟩

/-- No part of a phrase begins with the number of a replacement, and no part of a replacement with that of
a phrase. -/
theorem testBit_headBits_part (h : row ∈ synonyms) {s : List Char} (hne : s ≠ []) :
    (s <:+ row.1.toList →
      (headBits (synonyms.map fun row => row.2.toList)).testBit (headNumber s) = false) ∧
    (s <:+ row.2.toList →
      (headBits (synonyms.map fun row => row.1.toList)).testBit (headNumber s) = false) := by
  have htables := phrases_apart
  simp only [Bool.and_eq_true, List.all_eq_true, List.forall_mem_map, List.mem_tails,
    Bool.or_eq_true, Bool.not_eq_true', List.isEmpty_iff] at htables
  constructor
  · intro hs
    exact (htables.1.2 row h s hs).resolve_left hne
  · intro hs
    exact (htables.2 row h s hs).resolve_left hne

/-- No part of a phrase begins with the word that a replacement begins with. -/
theorem takeWhile_part_ne_replacement (h : row ∈ synonyms) (h' : row' ∈ synonyms) {s : List Char}
    (hs : s <:+ row.1.toList) (hne : s ≠ []) :
    s.takeWhile Text.isWord ≠ row'.2.toList.takeWhile Text.isWord := by
  refine takeWhile_ne_of_testBit ?_ (isPhrase_of_mem h').2 (List.mem_map.2 ⟨row', h', rfl⟩)
    ((testBit_headBits_part h hne).1 hs)
  intro c hc
  exact (isPhrase_of_mem h).1.spaced c (hs.mem hc)

/-- No part of a replacement begins with the word that a phrase begins with. -/
theorem takeWhile_part_ne_phrase (h : row ∈ synonyms) (h' : row' ∈ synonyms) {s : List Char}
    (hs : s <:+ row.2.toList) (hne : s ≠ []) :
    s.takeWhile Text.isWord ≠ row'.1.toList.takeWhile Text.isWord := by
  refine takeWhile_ne_of_testBit ?_ (isPhrase_of_mem h').1 (List.mem_map.2 ⟨row', h', rfl⟩)
    ((testBit_headBits_part h hne).2 hs)
  intro c hc
  exact (isPhrase_of_mem h).2.spaced c (hs.mem hc)

end Rows

/-! ## One pass -/

/-- What is found at a place is a row of the table, and its phrase stands there. -/
theorem phraseAt?_eq_some {before : Option Char} {cs phrase replacement : List Char}
    (h : phraseAt? before cs = some (phrase, replacement)) :
    ∃ row ∈ synonyms, phrase = row.1.toList ∧ replacement = row.2.toList ∧
      standsAt before cs phrase = true := by
  unfold phraseAt? at h
  split at h
  · next hboundary =>
      obtain ⟨row, hrow, hrows⟩ := List.mem_map.1 (List.mem_mergeSort.1 (List.mem_of_find?_eq_some h))
      obtain ⟨rfl, rfl⟩ := Prod.mk.inj hrows
      have hstands := List.find?_some h
      exact ⟨row, hrow, rfl, rfl, by rw [standsAt, hboundary, Bool.true_and]; exact hstands⟩
  · simp at h

/-- A phrase stands at a place when the text goes on with it and then with no more of its last word. -/
theorem standsAt_iff {before : Option Char} {cs phrase : List Char} (hphrase : IsPhrase phrase) :
    standsAt before cs phrase = true ↔ isBoundary before cs.head? = true ∧
      ∃ rest, cs = phrase ++ rest ∧ rest.head?.any Text.isWord = false := by
  rw [standsAt, Bool.and_eq_true, Bool.and_eq_true, List.isPrefixOf_iff_prefix,
    isBoundary_iff_of_word hphrase.ends]
  constructor
  · rintro ⟨hboundary, ⟨rest, rfl⟩, hrest⟩
    rw [List.drop_left] at hrest
    exact ⟨hboundary, rest, rfl, hrest⟩
  · rintro ⟨hboundary, rest, rfl, hrest⟩
    exact ⟨hboundary, List.prefix_append _ _, by rwa [List.drop_left]⟩

/-- One pass over a text: a phrase that stands at a place is swapped for its replacement, and any other
character is kept. -/
inductive Replaced : Option Char → List Char → List Char → Prop
  | done (before : Option Char) : Replaced before [] []
  | keep {before : Option Char} {c : Char} {rest out : List Char}
      (hnone : phraseAt? before (c :: rest) = none) (hrest : Replaced (some c) rest out) :
      Replaced before (c :: rest) (c :: out)
  | swap {before : Option Char} {phrase replacement rest out : List Char}
      (hsome : phraseAt? before (phrase ++ rest) = some (phrase, replacement))
      (hrest : Replaced phrase.getLast? rest out) :
      Replaced before (phrase ++ rest) (replacement ++ out)

theorem replaceFrom_append (before : Option Char) (skipped rest : List Char) :
    replaceFrom skipped.length before (skipped ++ rest)
      = replaceFrom 0 (skipped.getLast?.or before) rest := by
  induction skipped generalizing before with
  | nil => rfl
  | cons c skipped ih =>
      rw [getLast?_cons_or, ← ih]
      rfl

theorem replaced_replaceFrom (before : Option Char) (cs : List Char) :
    Replaced before cs (replaceFrom 0 before cs) := by
  -- A phrase is passed over as a whole, so the induction is on the length.
  induction hlength : cs.length using Nat.strongRecOn generalizing before cs with
  | ind n ih =>
      subst hlength
      cases cs with
      | nil => exact .done before
      | cons c rest =>
          cases hphrase : phraseAt? before (c :: rest) with
          | none =>
              rw [replaceFrom, hphrase]
              exact .keep hphrase (ih rest.length (by simp) _ _ rfl)
          | some found =>
              obtain ⟨phrase, replacement⟩ := found
              obtain ⟨row, hrow, rfl, -, hstands⟩ := phraseAt?_eq_some hphrase
              have hrowPhrase := (isPhrase_of_mem hrow).1
              obtain ⟨-, tail, hcs, -⟩ := (standsAt_iff hrowPhrase).1 hstands
              obtain ⟨d, word, hword⟩ : ∃ d word, row.1.toList = d :: word := by
                cases hchars : row.1.toList with
                | nil => simpa [hchars] using hrowPhrase.starts
                | cons d word => exact ⟨d, word, rfl⟩
              rw [hword, List.cons_append] at hcs
              obtain ⟨rfl, rfl⟩ := List.cons.inj hcs
              have hlast : row.1.toList.getLast? = word.getLast?.or (some c) := by
                rw [hword, ← Option.or_none (o := (c :: word).getLast?), getLast?_cons_or]
              have hskip : replaceFrom (row.1.toList.length - 1) (some c) (word ++ tail)
                  = replaceFrom 0 row.1.toList.getLast? tail := by
                rw [hlast, ← replaceFrom_append, hword]
                rfl
              rw [replaceFrom, hphrase]
              dsimp only
              rw [hskip, ← List.cons_append, ← hword]
              rw [← List.cons_append, ← hword] at hphrase
              have hshorter : tail.length < (c :: (word ++ tail)).length := by
                rw [List.length_cons, List.length_append]
                omega
              exact .swap hphrase (ih tail.length hshorter _ _ rfl)

namespace Replaced

variable {before : Option Char} {cs out : List Char}

/-- A pass keeps whether a text goes on with a word. -/
theorem head_isWord (h : Replaced before cs out) :
    out.head?.any Text.isWord = cs.head?.any Text.isWord := by
  cases h with
  | done => rfl
  | keep => rfl
  | swap hsome =>
      obtain ⟨row, hrow, rfl, rfl, -⟩ := phraseAt?_eq_some hsome
      obtain ⟨hphrase, hreplacement⟩ := isPhrase_of_mem hrow
      rw [hphrase.head_append, hreplacement.head_append]

/-- After a phrase that is swapped the text does not go on with its last word, before and after. -/
theorem head_after_swap {phrase replacement rest : List Char}
    (hsome : phraseAt? before (phrase ++ rest) = some (phrase, replacement))
    (hrest : Replaced phrase.getLast? rest out) : out.head?.any Text.isWord = false := by
  obtain ⟨row, hrow, rfl, -, hstands⟩ := phraseAt?_eq_some hsome
  obtain ⟨-, rest', happend, hhead⟩ := (standsAt_iff (isPhrase_of_mem hrow).1).1 hstands
  rw [hrest.head_isWord, List.append_cancel_left happend, hhead]

/-- A part of a phrase that stands in a text after a pass, to the end of a word, stood there before it. -/
theorem source (h : Replaced before cs out) {row : String × String} (hrow : row ∈ synonyms)
    {s t : List Char} (hs : s <:+ row.1.toList) (hout : out = s ++ t)
    (ht : t.head?.any Text.isWord = false) :
    ∃ rest, cs = s ++ rest ∧ rest.head?.any Text.isWord = false := by
  induction h generalizing s with
  | done =>
      obtain ⟨rfl, rfl⟩ := List.append_eq_nil_iff.1 hout.symm
      exact ⟨[], rfl, rfl⟩
  | @keep before c rest out hnone hrest ih =>
      cases s with
      | nil =>
          obtain rfl : c :: out = t := hout
          exact ⟨c :: rest, rfl, ht⟩
      | cons d s =>
          obtain ⟨rfl, hrestOut⟩ := List.cons.inj hout
          obtain ⟨tail, rfl, htail⟩ := ih ((List.suffix_cons c s).trans hs) hrestOut
          exact ⟨tail, rfl, htail⟩
  | @swap before phrase replacement rest out hsome hrest ih =>
      -- What is swapped in begins with a word that begins no part of a phrase.
      have hafter := head_after_swap hsome hrest
      obtain ⟨row', hrow', rfl, rfl, -⟩ := phraseAt?_eq_some hsome
      cases s with
      | nil =>
          rw [← List.nil_append t, ← hout, (isPhrase_of_mem hrow').2.head_append] at ht
          simp at ht
      | cons d s =>
          have hword : (row'.2.toList ++ out).takeWhile Text.isWord
              = (d :: s ++ t).takeWhile Text.isWord := by rw [hout]
          rw [takeWhile_append_of_head _ hafter, takeWhile_append_of_head _ ht] at hword
          exact absurd hword.symm (takeWhile_part_ne_replacement hrow hrow' hs (by simp))

/-- Before a text in which no phrase stands, what a replacement ends with makes none stand either. -/
theorem isPlain_append {row : String × String} (hrow : row ∈ synonyms) {s : List Char}
    (hs : s <:+ row.2.toList) (hout : out.head?.any Text.isWord = false)
    (hplain : isPlain (s.getLast?.or before) out = true) : isPlain before (s ++ out) = true := by
  induction s generalizing before with
  | nil => exact hplain
  | cons c s ih =>
      have hrest : isPlain (some c) (s ++ out) = true :=
        ih ((List.suffix_cons c s).trans hs) (by rwa [← getLast?_cons_or])
      rw [List.cons_append, isPlain, hrest, Bool.and_true, List.all_eq_true]
      intro row' hrow'
      rw [Bool.not_eq_true', ← Bool.not_eq_true, standsAt_iff (isPhrase_of_mem hrow').1]
      rintro ⟨-, t, happend, ht⟩
      have hword : (c :: s ++ out).takeWhile Text.isWord
          = (row'.1.toList ++ t).takeWhile Text.isWord := by rw [← happend, List.cons_append]
      rw [takeWhile_append_of_head _ hout, takeWhile_append_of_head _ ht] at hword
      exact takeWhile_part_ne_phrase hrow hrow' hs (by simp) hword

/-- No phrase stands in a text after a pass. -/
theorem isPlain (h : Replaced before cs out) {before' : Option Char}
    (hbefore : before'.any Text.isWord = before.any Text.isWord) :
    isPlain before' out = true := by
  induction h generalizing before' with
  | done => rfl
  | @keep before c rest out hnone hrest ih =>
      rw [Sentence.isPlain, ih rfl, Bool.and_true, List.all_eq_true]
      intro row hrow
      have hphrase := (isPhrase_of_mem hrow).1
      rw [Bool.not_eq_true', ← Bool.not_eq_true, standsAt_iff hphrase]
      -- The phrase would stand in what the pass has read, at a place where it found none.
      rintro ⟨hboundary, t, happend, ht⟩
      obtain ⟨tail, hcs, htail⟩ := (Replaced.keep hnone hrest).source hrow List.suffix_rfl happend ht
      have hstands : standsAt before (c :: rest) row.1.toList = true := by
        rw [standsAt_iff hphrase]
        refine ⟨?_, tail, hcs, htail⟩
        rwa [isBoundary_congr hbefore] at hboundary
      rw [phraseAt?_eq_none_iff.1 hnone row hrow] at hstands
      simp at hstands
  | @swap before phrase replacement rest out hsome hrest ih =>
      have hafter := head_after_swap hsome hrest
      obtain ⟨row, hrow, rfl, rfl, -⟩ := phraseAt?_eq_some hsome
      obtain ⟨hphrase, hreplacement⟩ := isPhrase_of_mem hrow
      refine isPlain_append hrow List.suffix_rfl hafter (ih ?_)
      rw [hphrase.ends, hreplacement.last_or]

end Replaced

theorem standsAt_of_isPlain {before : Option Char} {a b : List Char}
    (h : isPlain before (a ++ b) = true) {row : String × String} (hrow : row ∈ synonyms) :
    standsAt (a.getLast?.or before) b row.1.toList = false := by
  induction a generalizing before with
  | nil =>
      cases b with
      | nil =>
          have hphrase := (isPhrase_of_mem hrow).1
          rw [← Bool.not_eq_true, standsAt_iff hphrase]
          rintro ⟨-, rest, hnil, -⟩
          have hword := hphrase.head_append rest
          simp [← hnil] at hword
      | cons c b =>
          rw [List.nil_append, isPlain, Bool.and_eq_true, List.all_eq_true] at h
          simpa using h.1 row hrow
  | cons c a ih =>
      rw [List.cons_append, isPlain, Bool.and_eq_true] at h
      rw [getLast?_cons_or]
      exact ih h.2

/-- Where no phrase stands at any place, none stands in the text as a whole word. -/
theorem not_standsIn_of_isPlain {cs : List Char} (h : isPlain none cs = true) {row : String × String}
    (hrow : row ∈ synonyms) : ¬ StandsIn row.1.toList cs := by
  rintro ⟨a, b, rfl, hstart, hend⟩
  have hphrase := (isPhrase_of_mem hrow).1
  have hstands : standsAt a.getLast? (row.1.toList ++ b) row.1.toList = true := by
    rw [standsAt_iff hphrase]
    refine ⟨?_, b, rfl, (isBoundary_iff_of_word hphrase.ends).1 hend⟩
    rwa [List.head?_append_of_ne_nil _ hphrase.ne_nil]
  rw [List.append_assoc] at h
  rw [← Option.or_none (o := a.getLast?), standsAt_of_isPlain h hrow] at hstands
  simp at hstands

/-! ## The result of a pass -/

theorem isPlain_replaceSynonyms (cs : List Char) : isPlain none (replaceSynonyms cs) = true :=
  (replaced_replaceFrom none cs).isPlain rfl

/-- What a pass leaves is made of the characters of the text and of replacements. -/
theorem mem_of_mem_replaced {before : Option Char} {cs out : List Char} (h : Replaced before cs out)
    {c : Char} (hc : c ∈ out) : c ∈ cs ∨ ∃ row ∈ synonyms, c ∈ row.2.toList := by
  induction h with
  | done => exact .inl hc
  | keep _ _ ih =>
      rcases List.mem_cons.1 hc with rfl | hc
      · exact .inl List.mem_cons_self
      · exact (ih hc).imp_left (List.mem_cons_of_mem _)
  | swap hsome _ ih =>
      obtain ⟨row, hrow, -, rfl, -⟩ := phraseAt?_eq_some hsome
      rcases List.mem_append.1 hc with hc | hc
      · exact .inr ⟨row, hrow, hc⟩
      · exact (ih hc).imp_left (List.mem_append_right _)

/-- Replacements are in lower case. -/
theorem replacements_lower :
    (let bits := Text.runBits Text.capitals
     synonyms.all fun row => row.2.toList.all fun c => !bits.testBit c.toNat) = true := by
  decide +kernel

/-- A text in lower case is in lower case after a pass. -/
theorem lower_replaceSynonyms_lower (cs : List Char) :
    Text.lower (replaceSynonyms (Text.lower cs)) = replaceSynonyms (Text.lower cs) := by
  have hreplacements := replacements_lower
  simp only [List.all_eq_true, Bool.not_eq_true', ← Text.inRanges_eq_testBit] at hreplacements
  refine Text.lower_of_not_capital fun c hc => ?_
  rcases mem_of_mem_replaced (replaced_replaceFrom none _) hc with hc | ⟨row, hrow, hc⟩
  · exact Text.not_capital_of_mem_lower hc
  · exact hreplacements row hrow c hc

theorem entities_replaceSynonyms (text : String) :
    entities (.ofList (replaceSynonyms (Text.lower text.toList))) = entities text := by
  rw [entities, entities, String.toList_ofList, lower_replaceSynonyms_lower,
    replaceSynonyms_eq_self (isPlain_replaceSynonyms _)]

/-- **Synonyms are replaced once and for all.** A second pass over any text changes nothing, because no
phrase of the table stands in it as a whole word any more; and a sentence mentions what its text in lower
case mentions after the pass. -/
theorem synonyms_replaced_once (text : String) :
    replaceSynonyms (replaceSynonyms text.toList) = replaceSynonyms text.toList ∧
      (∀ row ∈ synonyms, ¬ StandsIn row.1.toList (replaceSynonyms text.toList)) ∧
      entities (.ofList (replaceSynonyms (Text.lower text.toList))) = entities text :=
  ⟨replaceSynonyms_eq_self (isPlain_replaceSynonyms _),
    fun _ hrow => not_standsIn_of_isPlain (isPlain_replaceSynonyms _) hrow,
    entities_replaceSynonyms text⟩

end Audience.Sentence
