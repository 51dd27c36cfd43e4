import Audience.Text.Blank

set_option autoImplicit false

/-! # Words

A text is taken apart into words at its blanks, and put together with one space between neighbours.
Words that hold no blank come back out of a text that was put together from them (`words_unwords`), and
blanks at the ends of a text make no word (`words_trim`). -/

namespace Audience.Text

/-- A word: not empty, and no blank in it. -/
def IsWord (w : List Char) : Prop :=
  w ≠ [] ∧ ∀ c ∈ w, isBlank c = false

theorem isBlank_space : isBlank ' ' = true := by decide

theorem isBlank_of_isDigit {c : Char} (h : c.isDigit = true) : isBlank c = false := by
  simp only [Char.isDigit, Bool.and_eq_true, decide_eq_true_eq, UInt32.le_iff_toNat_le] at h
  have hlow : 48 ≤ c.toNat := h.1
  have hhigh : c.toNat ≤ 57 := h.2
  simp only [isBlank, inRanges, blankRanges, List.any_cons, List.any_nil, Bool.or_false,
    Bool.or_eq_false_iff, Bool.and_eq_false_iff, decide_eq_false_iff_not]
  omega

/-! ## Taking apart -/

/-- A word that is being read goes on with the characters up to the next blank. -/
theorem wordsFrom_append {word v : List Char} (hv : ∀ c ∈ v, isBlank c = false) (cs : List Char) :
    wordsFrom word (v ++ cs) = wordsFrom (word ++ v) cs := by
  induction v generalizing word with
  | nil => simp
  | cons c v ih =>
      have hc : isBlank c = false := hv c List.mem_cons_self
      have hrest : ∀ d ∈ v, isBlank d = false := fun d hd => hv d (List.mem_cons_of_mem _ hd)
      simp only [List.cons_append, wordsFrom, hc, Bool.false_eq_true, if_false, ih hrest,
        List.append_assoc, List.cons_append, List.nil_append]

/-- What is taken apart is made of words, and of characters of the text. -/
theorem isWord_of_mem_wordsFrom {word cs : List Char} (hword : ∀ c ∈ word, isBlank c = false) :
    ∀ w ∈ wordsFrom word cs, IsWord w ∧ ∀ c ∈ w, c ∈ word ++ cs := by
  induction cs generalizing word with
  | nil =>
      intro w hw
      unfold wordsFrom at hw
      split at hw
      · simp at hw
      · next hne =>
          obtain rfl := List.mem_singleton.1 hw
          exact ⟨⟨by simpa using hne, hword⟩, fun c hc => by simpa using hc⟩
  | cons c cs ih =>
      intro w hw
      rw [wordsFrom] at hw
      have hrest : w ∈ wordsFrom [] cs → IsWord w ∧ ∀ d ∈ w, d ∈ word ++ c :: cs := by
        intro h
        have hnone : ∀ d ∈ ([] : List Char), isBlank d = false := by simp
        obtain ⟨hw, hsub⟩ := ih hnone w h
        refine ⟨hw, fun d hd => ?_⟩
        exact List.mem_append_right _ (List.mem_cons_of_mem _ (by simpa using hsub d hd))
      by_cases hc : isBlank c = true
      · rw [if_pos hc] at hw
        split at hw
        · exact hrest hw
        · next hne =>
            rcases List.mem_cons.1 hw with rfl | hw
            · exact ⟨⟨by simpa using hne, hword⟩, fun d hd => List.mem_append_left _ hd⟩
            · exact hrest hw
      · rw [if_neg hc] at hw
        rw [Bool.not_eq_true] at hc
        have hword' : ∀ d ∈ word ++ [c], isBlank d = false := by
          intro d hd
          rcases List.mem_append.1 hd with hd | hd
          · exact hword d hd
          · rw [List.mem_singleton.1 hd]
            exact hc
        simpa using ih hword' w hw

theorem isWord_of_mem_words {cs w : List Char} (h : w ∈ words cs) : IsWord w :=
  (isWord_of_mem_wordsFrom (by simp) w h).1

theorem mem_of_mem_words {cs w : List Char} {c : Char} (h : w ∈ words cs) (hc : c ∈ w) : c ∈ cs := by
  simpa using (isWord_of_mem_wordsFrom (by simp) w h).2 c hc

/-! ## Putting together -/

theorem mem_unwords {ws : List (List Char)} {c : Char} (h : c ∈ unwords ws) :
    c = ' ' ∨ ∃ w ∈ ws, c ∈ w := by
  induction ws with
  | nil => simp [unwords] at h
  | cons w ws ih =>
      cases ws with
      | nil => exact Or.inr ⟨w, List.mem_cons_self, h⟩
      | cons v vs =>
          rw [unwords] at h
          · rcases List.mem_append.1 h with h | h
            · exact Or.inr ⟨w, List.mem_cons_self, h⟩
            · rcases List.mem_cons.1 h with h | h
              · exact Or.inl h
              · rcases ih h with h | ⟨u, hu, hc⟩
                · exact Or.inl h
                · exact Or.inr ⟨u, List.mem_cons_of_mem _ hu, hc⟩
          · simp

/-- Words come back out of a text that was put together from them. -/
theorem words_unwords {ws : List (List Char)} (h : ∀ w ∈ ws, IsWord w) : words (unwords ws) = ws := by
  unfold words
  induction ws with
  | nil => rfl
  | cons w ws ih =>
      obtain ⟨hne, hw⟩ := h w List.mem_cons_self
      have hrest := ih fun v hv => h v (List.mem_cons_of_mem _ hv)
      have hemp : w.isEmpty = false := by simpa using hne
      cases ws with
      | nil =>
          have happ : wordsFrom [] (w ++ []) = wordsFrom ([] ++ w) [] := wordsFrom_append hw []
          simp only [List.append_nil, List.nil_append] at happ
          rw [unwords, happ, wordsFrom, hemp]
          rfl
      | cons v vs =>
          rw [unwords, wordsFrom_append hw, List.nil_append, wordsFrom, if_pos isBlank_space, hemp]
          · simp [hrest]
          · simp

/-! ## Blanks at the ends -/

theorem words_dropWhile (cs : List Char) : words (cs.dropWhile isBlank) = words cs := by
  unfold words
  induction cs with
  | nil => rfl
  | cons c cs ih =>
      by_cases hc : isBlank c = true
      · rw [List.dropWhile_cons_of_pos hc, ih, wordsFrom, if_pos hc]
        rfl
      · rw [List.dropWhile_cons_of_neg hc]

/-- Blanks at the end make no word. -/
theorem wordsFrom_append_blanks {bs : List Char} (hb : ∀ b ∈ bs, isBlank b = true)
    (word cs : List Char) : wordsFrom word (cs ++ bs) = wordsFrom word cs := by
  induction cs generalizing word with
  | nil =>
      -- The first blank ends the word that is being read, and no other begins.
      induction bs generalizing word with
      | nil => rfl
      | cons b bs ih =>
          have hrest := ih fun b' hb' => hb b' (List.mem_cons_of_mem _ hb')
          have hnil : wordsFrom [] bs = [] := hrest []
          simp only [List.nil_append, wordsFrom, hb b List.mem_cons_self, if_true, hnil]
  | cons c cs ih => simp only [List.cons_append, wordsFrom, ih]

theorem trimEnd_append_blanks (cs : List Char) :
    trimEnd cs ++ (cs.reverse.takeWhile isBlank).reverse = cs := by
  rw [trimEnd, ← List.reverse_append, List.takeWhile_append_dropWhile, List.reverse_reverse]

theorem words_trimEnd (cs : List Char) : words (trimEnd cs) = words cs := by
  have hblank : ∀ b ∈ (cs.reverse.takeWhile isBlank).reverse, isBlank b = true := by
    intro b hb
    exact List.all_eq_true.1 List.all_takeWhile b (List.mem_reverse.1 hb)
  calc words (trimEnd cs)
      = words (trimEnd cs ++ (cs.reverse.takeWhile isBlank).reverse) :=
        (wordsFrom_append_blanks hblank [] _).symm
    _ = words cs := by rw [trimEnd_append_blanks]

/-- Blanks at the ends of a text make no word. -/
theorem words_trim (cs : List Char) : words (trim cs) = words cs := by
  rw [trim, words_trimEnd, words_dropWhile]

theorem mem_of_mem_trim {cs : List Char} {c : Char} (h : c ∈ trim cs) : c ∈ cs := by
  rw [trim, trimEnd, List.mem_reverse] at h
  exact (List.dropWhile_sublist _).mem (List.mem_reverse.1 ((List.dropWhile_sublist _).mem h))

/-- What is left of a text starts with its first character that is no blank. -/
theorem head?_dropWhile_of_trim {cs ds : List Char} {c : Char} (h : trim cs = c :: ds) :
    (cs.dropWhile isBlank).head? = some c := by
  rw [← trimEnd_append_blanks (cs.dropWhile isBlank), ← trim, h]
  rfl

/-- A text keeps its first character if that is no blank. -/
theorem exists_trim_cons {c : Char} (h : isBlank c = false) (cs : List Char) :
    ∃ ds, trim (c :: cs) = c :: ds := by
  have hdrop : (c :: cs).dropWhile isBlank = c :: cs := by simp [h]
  rw [trim, hdrop, trimEnd, List.reverse_cons, List.dropWhile_append]
  split
  · exact ⟨[], by simp [h]⟩
  · exact ⟨(cs.reverse.dropWhile isBlank).reverse, by simp⟩

/-- Nothing is taken off a text without blanks. -/
theorem trim_eq_self {cs : List Char} (h : ∀ c ∈ cs, isBlank c = false) : trim cs = cs := by
  have hstart : ∀ ds : List Char, (∀ c ∈ ds, isBlank c = false) → ds.dropWhile isBlank = ds := by
    intro ds hds
    cases ds with
    | nil => rfl
    | cons d ds => rw [List.dropWhile_cons_of_neg (by simp [hds d List.mem_cons_self])]
  have hend : ∀ c ∈ cs.reverse, isBlank c = false := fun c hc => h c (List.mem_reverse.1 hc)
  rw [trim, hstart cs h, trimEnd, hstart cs.reverse hend, List.reverse_reverse]

theorem trimEnd_append {blanks : List Char} (cs : List Char) (h : ∀ c ∈ blanks, isBlank c = true) :
    trimEnd (cs ++ blanks) = trimEnd cs := by
  have hreverse : ∀ c ∈ blanks.reverse, isBlank c = true := fun c hc => h c (List.mem_reverse.1 hc)
  rw [trimEnd, List.reverse_append, List.dropWhile_append_of_pos hreverse, ← trimEnd]

/-- The blanks around a text without blanks are all that is taken off. -/
theorem trim_between {before cs after : List Char} (hbefore : ∀ c ∈ before, isBlank c = true)
    (hne : cs ≠ []) (h : ∀ c ∈ cs, isBlank c = false) (hafter : ∀ c ∈ after, isBlank c = true) :
    trim (before ++ cs ++ after) = cs := by
  obtain ⟨c, cs, rfl⟩ := List.exists_cons_of_ne_nil hne
  have hc : ¬ isBlank c = true := by simp [h c List.mem_cons_self]
  calc trim (before ++ c :: cs ++ after) = trimEnd (c :: cs ++ after) := by
        rw [trim, List.append_assoc, List.dropWhile_append_of_pos hbefore, List.cons_append,
          List.dropWhile_cons_of_neg hc]
    _ = trimEnd (c :: cs) := trimEnd_append _ hafter
    _ = trim (c :: cs) := by rw [trim, List.dropWhile_cons_of_neg hc]
    _ = c :: cs := trim_eq_self h

/-- A text that does not start with a blank is what is left of it, and the blanks after that. -/
theorem exists_append_blanks_of_head {cs : List Char} (h : cs.head?.any isBlank = false) :
    ∃ space, cs = trim cs ++ space ∧ ∀ c ∈ space, isBlank c = true := by
  have hdrop : cs.dropWhile isBlank = cs := by
    cases cs with
    | nil => rfl
    | cons c cs => exact List.dropWhile_cons_of_neg (by simpa using h)
  refine ⟨(cs.reverse.takeWhile isBlank).reverse, ?_, ?_⟩
  · rw [trim, hdrop, trimEnd_append_blanks]
  · intro c hc
    exact List.all_eq_true.1 List.all_takeWhile c (List.mem_reverse.1 hc)

theorem head?_dropWhile_any {p : Char → Bool} (cs : List Char) :
    (cs.dropWhile p).head?.any p = false := by
  have h := List.head?_dropWhile_not p cs
  cases hhead : (cs.dropWhile p).head? with
  | none => rfl
  | some c => simpa [hhead] using h

/-- What is left of a text does not end with a blank. -/
theorem getLast?_trim (cs : List Char) : (trim cs).getLast?.any isBlank = false := by
  rw [trim, trimEnd, List.getLast?_reverse, head?_dropWhile_any]

/-- The first word of a text that starts with a word is that word. -/
theorem head?_words_append {w rest : List Char} (hw : IsWord w)
    (hrest : rest.head?.all isBlank = true) : (words (w ++ rest)).head? = some w := by
  have hsome : w.isEmpty = false := by simpa using hw.1
  rw [words, wordsFrom_append hw.2, List.nil_append]
  cases rest with
  | nil => simp [wordsFrom, hsome]
  | cons c rest =>
      have hc : isBlank c = true := by simpa using hrest
      simp [wordsFrom, hc, hsome]

end Audience.Text
