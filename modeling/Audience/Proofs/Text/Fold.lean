import Audience.Proofs.Text.CodePoint
import Audience.Proofs.Text.Words
import Audience.Text.Fold

set_option autoImplicit false

/-! # Search keys are their own search keys

Lowering, taking marks off and spelling đ as d each leave a character alone unless it is listed in one of
the tables. `IsSteady` says that a character is in none of them. What lowering gives is no capital
(`not_capital_of_mem_lower`), what is left of it without its marks is steady
(`isSteady_of_mem_baseOf`), and a text of steady characters is its own search key once its words are
separated by single spaces (`fold_fold`).

That no image of a table is listed in another is a fact about the tables. It is decided on the bits of
the code points that are listed. -/

namespace Audience.Text

/-! ## Steady characters -/

/-- The characters that lowering changes. -/
def capitals : List (Nat × Nat) :=
  (0x130, 0x130) :: membersOf lowerRuns

/-- The runs of composed characters, without their bases. -/
def composed : List (Nat × Nat) :=
  baseRuns.map fun r => (r.1, r.2.1)

/-- The characters that have marks, are marks or stand for another letter: composed ones, marks, Hangul
syllables and đ. -/
def decorated : List (Nat × Nat) :=
  (0xAC00, 0xD7A3) :: (0x111, 0x111) :: markRanges ++ composed

/-- Whether no step of making a search key changes a character. -/
def IsSteady (c : Char) : Prop :=
  inRanges capitals c = false ∧ inRanges decorated c = false

theorem not_mem_runs_of_inRanges {runs : List (Nat × Nat)} {c : Char} (h : inRanges runs c = false) :
    ∀ r ∈ runs, ¬ (r.1 ≤ c.toNat ∧ c.toNat ≤ r.2) := by
  intro r hr hc
  have hno := List.any_eq_false.1 h r hr
  simp [hc.1, hc.2] at hno

theorem lowerChar_of_not_capital {c : Char} (h : inRanges capitals c = false) : lowerChar c = [c] := by
  have hdotted : c ≠ 'İ' := by
    rintro rfl
    exact not_mem_runs_of_inRanges h _ List.mem_cons_self (by decide)
  have hmembers : inRanges (membersOf lowerRuns) c = false := by
    rw [inRanges, capitals, List.any_cons, Bool.or_eq_false_iff] at h
    exact h.2
  rw [lowerChar, if_neg hdotted, mapRuns_of_not_member hmembers]

theorem baseOf_of_not_decorated {c : Char} (h : inRanges decorated c = false) : baseOf c = [c] := by
  have hno := not_mem_runs_of_inRanges h
  have hmark : isMark c = false := by
    rw [decorated, List.cons_append, List.cons_append] at h
    simp only [inRanges, List.any_cons, List.any_append, Bool.or_eq_false_iff] at h
    exact h.2.2.1
  have hhangul : ¬ (0xAC00 ≤ c.toNat ∧ c.toNat ≤ 0xD7A3) := hno _ List.mem_cons_self
  have hfind : (baseRuns.find? fun r => r.1 ≤ c.toNat && c.toNat ≤ r.2.1) = none := by
    rw [List.find?_eq_none]
    intro r hr hc
    simp only [Bool.and_eq_true, decide_eq_true_eq] at hc
    exact hno (r.1, r.2.1) (List.mem_append_right _ (List.mem_map.2 ⟨r, hr, rfl⟩)) hc
  simp only [baseOf, hmark, Bool.false_eq_true, if_false, if_neg hhangul, hfind, ite_self]

theorem plainD_of_not_decorated {c : Char} (h : inRanges decorated c = false) : plainD c = c := by
  have hd : c ≠ 'đ' := by
    rintro rfl
    exact not_mem_runs_of_inRanges h _ (List.mem_cons_of_mem _ List.mem_cons_self) (by decide)
  rw [plainD, if_neg hd]

/-! ## The tables -/

/-- What a search key has written by hand: the space, the d that stands for đ, the two characters of a
dotted i, and the small letters of sigma. -/
def handwritten : List Char :=
  [' ', 'd', 'i', '\u0307', 'σ', 'ς']

/-- Sigma is a capital, and what is written by hand is none. -/
theorem handwritten_capitals :
    inRanges capitals 'Σ' = true ∧ ∀ c ∈ handwritten, inRanges capitals c = false := by
  have hbits : ((runBits capitals).testBit 'Σ'.toNat
      && handwritten.all fun c => !(runBits capitals).testBit c.toNat) = true := by
    decide +kernel
  simpa [inRanges_eq_testBit] using hbits

/-- The space and the letter d are written by hand, and neither is decorated. -/
theorem handwritten_steady : IsSteady ' ' ∧ IsSteady 'd' := by
  have hdec : inRanges decorated ' ' = false ∧ inRanges decorated 'd' = false := by
    simp only [inRanges_eq_testBit]
    decide +kernel
  have hcap := handwritten_capitals.2
  exact ⟨⟨hcap _ (by simp [handwritten]), hdec.1⟩, ⟨hcap _ (by simp [handwritten]), hdec.2⟩⟩

/-- Every run holds a character, and no small letter of the table is a capital of it. -/
theorem lowerRuns_images :
    (lowerRuns.all fun r => r.first ≤ r.last) = true ∧
    (let bits := runBits capitals
     !bits.testBit 0 && lowerRuns.all fun r => r.offsets.all fun o => !bits.testBit (r.image + o))
      = true := by
  refine ⟨by decide +kernel, by decide +kernel⟩

/-- The base of a composed character is steady, unless all characters of the run are capitals. -/
theorem baseRuns_bases :
    (let low := runBits capitals
     let bits := low ||| runBits decorated
     !bits.testBit 0 && baseRuns.all fun r =>
        !bits.testBit r.2.2 || (List.range (r.2.1 + 1 - r.1)).all fun k => low.testBit (r.1 + k))
      = true := by
  decide +kernel

/-- The letters that Hangul syllables are made of are steady. -/
theorem hangul_letters :
    (let bits := runBits capitals ||| runBits decorated
     (List.range 0xC3).all fun k => !bits.testBit (0x1100 + k)) = true := by
  decide +kernel

/-- Nothing is decorated below the composed Latin letters. -/
theorem decorated_start : (decorated.all fun r => 0xC0 ≤ r.1) = true := by
  decide +kernel

/-! ## Making a search key -/

/-- What a character is lowered to is no capital. -/
theorem not_capital_of_mem_lowerChar {c d : Char} (h : d ∈ lowerChar c) :
    inRanges capitals d = false := by
  obtain ⟨hruns, himages⟩ := lowerRuns_images
  simp only [Bool.and_eq_true, List.all_eq_true, Bool.not_eq_true', decide_eq_true_eq] at hruns himages
  by_cases hc : inRanges capitals c = false
  · rw [lowerChar_of_not_capital hc, List.mem_singleton] at h
    rw [h]
    exact hc
  · unfold lowerChar at h
    split at h
    · rcases List.mem_cons.1 h with rfl | h
      · exact handwritten_capitals.2 _ (by simp [handwritten])
      · obtain rfl := List.mem_singleton.1 h
        exact handwritten_capitals.2 _ (by simp [handwritten])
    · next hdotted =>
        have hmember : inRanges (membersOf lowerRuns) c = true := by
          rw [Bool.not_eq_false, inRanges, capitals, List.any_cons, Bool.or_eq_true] at hc
          rcases hc with hc | hc
          · simp only [Bool.and_eq_true, decide_eq_true_eq] at hc
            have hcode : c.toNat = 'İ'.toNat := by
              rw [show 'İ'.toNat = 0x130 by decide]
              omega
            exact absurd (Char.toNat_inj.1 hcode) hdotted
          · exact hc
        obtain ⟨r, hr, o, ho, _, himage⟩ := mapRuns_of_member hruns hmember
        rw [List.mem_singleton.1 h, himage]
        exact inRanges_ofNat himages.1 (himages.2 r hr o ho)

/-- A lowered text holds no capital. -/
theorem not_capital_of_mem_lower {cs : List Char} {d : Char} (h : d ∈ lower cs) :
    inRanges capitals d = false := by
  unfold lower at h
  -- Which letter a sigma becomes depends on what stands before it; neither of the two is a capital.
  generalize ([] : List Char) = before at h
  induction cs generalizing before with
  | nil => simp [lowerFrom] at h
  | cons c cs ih =>
      rw [lowerFrom] at h
      rcases List.mem_append.1 h with h | h
      · split at h
        · rw [List.mem_singleton.1 h]
          split
          · exact handwritten_capitals.2 _ (by simp [handwritten])
          · exact handwritten_capitals.2 _ (by simp [handwritten])
        · exact not_capital_of_mem_lowerChar h
      · exact ih _ h

/-- A character made of a code point is steady if neither the code point nor zero is listed. -/
theorem isSteady_ofNat {n : Nat} (h0 : (runBits capitals ||| runBits decorated).testBit 0 = false)
    (hn : (runBits capitals ||| runBits decorated).testBit n = false) : IsSteady (Char.ofNat n) := by
  rw [Nat.testBit_or, Bool.or_eq_false_iff] at h0 hn
  exact ⟨inRanges_ofNat h0.1 hn.1, inRanges_ofNat h0.2 hn.2⟩

theorem isSteady_of_mem_hangulLetters {n : Nat} {e : Char} (h : e ∈ hangulLetters n)
    (hn : n ≤ 0xD7A3) : IsSteady e := by
  have hletters := hangul_letters
  have hbases := baseRuns_bases
  simp only [Bool.and_eq_true, List.all_eq_true, Bool.not_eq_true', List.mem_range] at hletters hbases
  have hletter : ∀ k, k < 0xC3 → IsSteady (Char.ofNat (0x1100 + k)) :=
    fun k hk => isSteady_ofNat hbases.1 (hletters k hk)
  have hleading := hletter ((n - 0xAC00) / 588) (by omega)
  have hvowel := hletter (0x61 + (n - 0xAC00) % 588 / 28) (by omega)
  have htrailing := hletter (0xA7 + (n - 0xAC00) % 28) (by omega)
  simp only [← Nat.add_assoc, Nat.reduceAdd] at hvowel htrailing
  dsimp only [hangulLetters] at h
  split at h
  · rcases List.mem_cons.1 h with rfl | h
    · exact hleading
    · rw [List.mem_singleton.1 h]
      exact hvowel
  · rcases List.mem_cons.1 h with rfl | h
    · exact hleading
    · rcases List.mem_cons.1 h with rfl | h
      · exact hvowel
      · rw [List.mem_singleton.1 h]
        exact htrailing

/-- What is left of a character that is no capital, without its marks and its stroke, is steady. -/
theorem isSteady_of_mem_baseOf {d e : Char} (hd : inRanges capitals d = false) (h : e ∈ baseOf d) :
    IsSteady (plainD e) := by
  -- A character that is left over as it was is not decorated, unless it is đ.
  have hself : inRanges decorated d = false ∨ d = 'đ' → e = d → IsSteady (plainD e) := by
    rintro (hdec | rfl) rfl
    · rw [plainD_of_not_decorated hdec]
      exact ⟨hd, hdec⟩
    · exact handwritten_steady.2
  have hsteady : IsSteady e → IsSteady (plainD e) := by
    intro he
    rwa [plainD_of_not_decorated he.2]
  unfold baseOf at h
  split at h
  · next hlow =>
      refine hself (Or.inl ?_) (List.mem_singleton.1 h)
      refine List.any_eq_false.2 fun r hr hc => ?_
      have hstart := List.all_eq_true.1 decorated_start r hr
      simp only [Bool.and_eq_true, decide_eq_true_eq] at hc hstart
      omega
  · split at h
    · simp at h
    · next hmark =>
        split at h
        · next hhangul => exact hsteady (isSteady_of_mem_hangulLetters h hhangul.2)
        · next hhangul =>
            split at h
            · next first last base hfind =>
                obtain rfl := List.mem_singleton.1 h
                apply hsteady
                have hbases := baseRuns_bases
                simp only [Bool.and_eq_true, List.all_eq_true, Bool.not_eq_true', Bool.or_eq_true,
                  List.mem_range] at hbases
                obtain ⟨hfirst, hlast⟩ : first ≤ d.toNat ∧ d.toNat ≤ last := by
                  simpa using List.find?_some hfind
                -- A run whose base is listed holds nothing but capitals, and this is none.
                rcases hbases.2 _ (List.mem_of_find?_eq_some hfind) with hbase | hcapital
                · exact isSteady_ofNat hbases.1 hbase
                · have hcap := hcapital (d.toNat - first) (show _ < last + 1 - first by omega)
                  rw [show first + (d.toNat - first) = d.toNat by omega, ← inRanges_eq_testBit, hd]
                    at hcap
                  simp at hcap
            · next hfind =>
                refine hself ?_ (List.mem_singleton.1 h)
                by_cases hstroke : d = 'đ'
                · exact Or.inr hstroke
                · refine Or.inl (List.any_eq_false.2 fun r hr hc => ?_)
                  simp only [Bool.and_eq_true, decide_eq_true_eq] at hc
                  rcases List.mem_cons.1 hr with rfl | hr
                  · exact hhangul hc
                  · rcases List.mem_cons.1 hr with rfl | hr
                    · have hcode : d.toNat = 'đ'.toNat := by
                        rw [show 'đ'.toNat = 0x111 by decide]
                        omega
                      exact hstroke (Char.toNat_inj.1 hcode)
                    · rcases List.mem_append.1 hr with hr | hr
                      · exact hmark (List.any_eq_true.2 ⟨r, hr, by simp [hc.1, hc.2]⟩)
                      · obtain ⟨q, hq, rfl⟩ := List.mem_map.1 hr
                        have hno := List.find?_eq_none.1 hfind q hq
                        simp [hc.1, hc.2] at hno

/-! ## Texts of steady characters -/

/-- A text without capitals is in lower case. -/
theorem lower_of_not_capital {cs : List Char} (h : ∀ c ∈ cs, inRanges capitals c = false) :
    lower cs = cs := by
  unfold lower
  generalize ([] : List Char) = before
  induction cs generalizing before with
  | nil => rfl
  | cons c cs ih =>
      have hc : inRanges capitals c = false := h c List.mem_cons_self
      have hsigma : c ≠ 'Σ' := by
        rintro rfl
        rw [handwritten_capitals.1] at hc
        simp at hc
      rw [lowerFrom, if_neg hsigma, lowerChar_of_not_capital hc,
        ih fun d hd => h d (List.mem_cons_of_mem _ hd)]
      rfl

theorem lower_of_steady {cs : List Char} (h : ∀ c ∈ cs, IsSteady c) : lower cs = cs :=
  lower_of_not_capital fun c hc => (h c hc).1

theorem flatMap_baseOf_of_steady {cs : List Char} (h : ∀ c ∈ cs, IsSteady c) :
    cs.flatMap baseOf = cs := by
  induction cs with
  | nil => rfl
  | cons c cs ih =>
      rw [List.flatMap_cons, baseOf_of_not_decorated (h c List.mem_cons_self).2,
        ih fun d hd => h d (List.mem_cons_of_mem _ hd)]
      rfl

theorem map_plainD_of_steady {cs : List Char} (h : ∀ c ∈ cs, IsSteady c) : cs.map plainD = cs := by
  induction cs with
  | nil => rfl
  | cons c cs ih =>
      rw [List.map_cons, plainD_of_not_decorated (h c List.mem_cons_self).2,
        ih fun d hd => h d (List.mem_cons_of_mem _ hd)]

/-- A search key is made of steady characters. -/
theorem isSteady_of_mem_foldChars {cs : List Char} {c : Char} (h : c ∈ foldChars cs) : IsSteady c := by
  rcases mem_unwords h with rfl | ⟨w, hw, hc⟩
  · exact handwritten_steady.1
  · obtain ⟨e, he, rfl⟩ := List.mem_map.1 (mem_of_mem_words hw hc)
    obtain ⟨d, hd, he⟩ := List.mem_flatMap.1 he
    exact isSteady_of_mem_baseOf (not_capital_of_mem_lower hd) he

/-- A search key is its own search key. -/
theorem foldChars_foldChars (cs : List Char) : foldChars (foldChars cs) = foldChars cs := by
  have hsteady : ∀ c ∈ trim (foldChars cs), IsSteady c :=
    fun c hc => isSteady_of_mem_foldChars (mem_of_mem_trim hc)
  calc foldChars (foldChars cs)
      = unwords (words (trim (foldChars cs))) := by
        rw [foldChars, lower_of_steady hsteady, flatMap_baseOf_of_steady hsteady,
          map_plainD_of_steady hsteady]
    _ = unwords (words (foldChars cs)) := by rw [words_trim]
    _ = foldChars cs := by
        rw [foldChars, words_unwords fun w hw => isWord_of_mem_words hw]

/-- A search key is its own search key. -/
@[simp] theorem fold_fold (s : String) : fold (fold s) = fold s := by
  simp only [fold, String.toList_ofList, foldChars_foldChars]

/-! ## Search keys without words -/

/-- A text of blanks has no search key. -/
theorem fold_of_isAllBlank {s : String} (h : isAllBlank s = true) : fold s = "" := by
  have hdrop : (s.toList ++ []).dropWhile isBlank = [] :=
    List.dropWhile_append_of_pos (List.all_eq_true.1 h)
  rw [List.append_nil] at hdrop
  rw [fold, foldChars, trim, hdrop]
  rfl

/-- A search key of blanks is none at all. -/
theorem fold_eq_of_isAllBlank_fold {s : String} (h : isAllBlank (fold s) = true) : fold s = "" := by
  rw [← fold_fold, fold_of_isAllBlank h]

end Audience.Text
