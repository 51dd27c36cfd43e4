import Audience.Proofs.Text.Fold
import Audience.Text.Title

set_option autoImplicit false

/-! # Capitals

A text that is written with capitals keeps its words: no character of a word becomes a blank or a hyphen
(`breaksWord_of_mem_lowerChar`, `breaksWord_of_mem_upperChar`). So what is not blank stays so
(`isAllBlank_title`), and a text that is written so once more has its capitals in the same places.

Small letters stay as they are then, and so does a capital of one letter. A capital of several letters does
not, if one of those after the first is a capital too: that one becomes small, as the second S of `SS`,
which is the capital of ß. So writing a text with capitals again changes nothing exactly when no word of it
starts with such a letter (`title_title_eq_iff`). -/

namespace Audience.Text

/-! ## Characters of words -/

/-- The characters after which a word starts: blanks and the hyphen. -/
def wordBreaks : List (Nat × Nat) :=
  (0x2D, 0x2D) :: blankRanges

theorem breaksWord_eq_inRanges (c : Char) : breaksWord c = inRanges wordBreaks c := by
  have hhyphen : (c == '-') = (0x2D ≤ c.toNat && c.toNat ≤ 0x2D) := by
    rw [Bool.eq_iff_iff, beq_iff_eq, ← Char.toNat_inj, show '-'.toNat = 0x2D by decide]
    simp only [Bool.and_eq_true, decide_eq_true_eq]
    omega
  rw [breaksWord, hhyphen, Bool.or_comm]
  rfl

theorem isBlank_of_not_breaksWord {c : Char} (h : breaksWord c = false) : isBlank c = false := by
  rw [breaksWord, Bool.or_eq_false_iff] at h
  exact h.1

/-- Every run of capitals holds a character. -/
theorem upperRuns_hold : (upperRuns.all fun r => r.first ≤ r.last) = true := by
  decide +kernel

/-- Neither small letters nor capitals break a word, those that are spelled out included. -/
theorem cases_unbroken :
    (let bits := runBits wordBreaks
     !bits.testBit 0
      && (lowerRuns.all fun r => r.offsets.all fun o => !bits.testBit (r.image + o))
      && (upperRuns.all fun r => r.offsets.all fun o => !bits.testBit (r.image + o))
      && upperSpelledOut.all fun p => p.2.all fun n => !bits.testBit n) = true := by
  decide +kernel

theorem breaksWord_of_mem_lowerChar {c d : Char} (hc : breaksWord c = false) (hd : d ∈ lowerChar c) :
    breaksWord d = false := by
  obtain ⟨hruns, -⟩ := lowerRuns_images
  have himages := cases_unbroken
  simp only [Bool.and_eq_true, List.all_eq_true, Bool.not_eq_true', decide_eq_true_eq] at hruns himages
  rw [breaksWord_eq_inRanges] at hc ⊢
  unfold lowerChar at hd
  split at hd
  · rcases List.mem_cons.1 hd with rfl | hd
    · decide
    · rw [List.mem_singleton.1 hd]
      decide
  · rw [List.mem_singleton.1 hd]
    exact inRanges_mapRuns hruns himages.1.1.1 himages.1.1.2 hc

/-- The capital of a character is spelled out, or it is that of a run. -/
theorem upperChar_cases (c : Char) :
    (∃ p ∈ upperSpelledOut, p.1 = c.toNat ∧ upperChar c = p.2.map Char.ofNat) ∨
      upperChar c = [mapRuns upperRuns c] := by
  unfold upperChar
  split
  · exact Or.inr rfl
  · split
    · next n form hfind =>
        have hcode := List.find?_some hfind
        exact Or.inl ⟨(n, form), List.mem_of_find?_eq_some hfind, by simpa using hcode, rfl⟩
    · exact Or.inr rfl

theorem breaksWord_of_mem_upperChar {c d : Char} (hc : breaksWord c = false) (hd : d ∈ upperChar c) :
    breaksWord d = false := by
  have hruns := upperRuns_hold
  have himages := cases_unbroken
  simp only [Bool.and_eq_true, List.all_eq_true, Bool.not_eq_true', decide_eq_true_eq] at hruns himages
  rw [breaksWord_eq_inRanges] at hc ⊢
  rcases upperChar_cases c with ⟨p, hp, -, hform⟩ | hrun
  · rw [hform] at hd
    obtain ⟨n, hn, rfl⟩ := List.mem_map.1 hd
    exact inRanges_ofNat himages.1.1.1 (himages.2 p hp n hn)
  · rw [hrun] at hd
    rw [List.mem_singleton.1 hd]
    exact inRanges_mapRuns hruns himages.1.1.1 himages.1.2 hc

theorem exists_mem_lowerChar (c : Char) : ∃ d, d ∈ lowerChar c := by
  unfold lowerChar
  split
  · exact ⟨_, List.mem_cons_self⟩
  · exact ⟨_, List.mem_cons_self⟩

/-! ## Capitals of capitals -/

/-- The characters that are not their own capital. -/
def smallLetters : List (Nat × Nat) :=
  upperSpelledOut.map (fun p => (p.1, p.1)) ++ membersOf upperRuns

/-- A capital is its own capital, and so is the first letter of one that is spelled out. -/
theorem capitals_not_small :
    (let bits := runBits smallLetters
     !bits.testBit 0
      && (upperRuns.all fun r => r.offsets.all fun o => !bits.testBit (r.image + o))
      && upperSpelledOut.all fun p => p.2.head?.any fun n => !bits.testBit n) = true := by
  decide +kernel

/-- Each letter after the first of a capital that is spelled out has a small letter of one character. -/
theorem spelledOut_small :
    (upperSpelledOut.all fun p => p.2.tail.all fun n => (lowerChar (Char.ofNat n)).length == 1)
      = true := by
  decide +kernel

theorem upperChar_of_not_small {c : Char} (h : inRanges smallLetters c = false) :
    upperChar c = [c] := by
  rw [inRanges, smallLetters, List.any_append, Bool.or_eq_false_iff] at h
  rcases upperChar_cases c with ⟨p, hp, hcode, -⟩ | hrun
  · have hno := List.any_eq_false.1 h.1 (p.1, p.1) (List.mem_map.2 ⟨p, hp, rfl⟩)
    simp [hcode] at hno
  · rw [hrun, mapRuns_of_not_member h.2]

/-- A capital starts with a letter that is its own capital, and each of its other letters has a small letter
of one character. -/
theorem exists_upperChar_eq_cons (c : Char) :
    ∃ d ds, upperChar c = d :: ds ∧ upperChar d = [d] ∧ ∀ e ∈ ds, (lowerChar e).length = 1 := by
  have hruns := upperRuns_hold
  have hcapitals := capitals_not_small
  have hsmall := spelledOut_small
  simp only [Bool.and_eq_true, List.all_eq_true, Bool.not_eq_true', decide_eq_true_eq, beq_iff_eq]
    at hruns hcapitals hsmall
  rcases upperChar_cases c with ⟨⟨code, form⟩, hp, -, hform⟩ | hrun
  · have hhead := hcapitals.2 _ hp
    cases form with
    | nil => simp at hhead
    | cons n ns =>
        simp only [List.head?_cons, Option.any_some, Bool.not_eq_true'] at hhead
        refine ⟨Char.ofNat n, ns.map Char.ofNat, hform,
          upperChar_of_not_small (inRanges_ofNat hcapitals.1.1 hhead), fun e he => ?_⟩
        obtain ⟨m, hm, rfl⟩ := List.mem_map.1 he
        exact hsmall _ hp m hm
  · refine ⟨_, [], hrun, ?_, by simp⟩
    cases hmember : inRanges (membersOf upperRuns) c with
    | false =>
        rw [mapRuns_of_not_member hmember] at hrun ⊢
        exact hrun
    | true =>
        obtain ⟨r, hr, o, ho, -, himage⟩ := mapRuns_of_member hruns hmember
        rw [himage]
        exact upperChar_of_not_small (inRanges_ofNat hcapitals.1.1 (hcapitals.1.2 r hr o ho))

/-- Whether the letters after the first of a character's capital are in lower case. -/
def CapitalStays (c : Char) : Prop :=
  ∀ d ∈ (upperChar c).tail, lowerChar d = [d]

/-! ## Texts with capitals -/

/-- The characters that words of a text start with, if a word may start at its beginning. -/
def wordStarts (atStart : Bool) : List Char → List Char
  | [] => []
  | c :: rest =>
    if breaksWord c then wordStarts true rest
    else if atStart then c :: wordStarts false rest
    else wordStarts false rest

theorem titleFrom_cons_of_breaksWord {c : Char} (h : breaksWord c = true) (atStart : Bool)
    (cs : List Char) : titleFrom atStart (c :: cs) = c :: titleFrom true cs := by
  rw [titleFrom, if_pos h]

theorem titleFrom_cons_of_not_breaksWord {c : Char} (h : breaksWord c = false) (atStart : Bool)
    (cs : List Char) :
    titleFrom atStart (c :: cs)
      = (if atStart then upperChar c else lowerChar c) ++ titleFrom false cs := by
  rw [titleFrom, if_neg (by simp [h])]

/-- Inside of a word, characters that do not end it become small. -/
theorem titleFrom_false_append {ds : List Char} (h : ∀ d ∈ ds, breaksWord d = false)
    (cs : List Char) : titleFrom false (ds ++ cs) = ds.flatMap lowerChar ++ titleFrom false cs := by
  induction ds with
  | nil => rfl
  | cons d ds ih =>
      have hd : breaksWord d = false := h d List.mem_cons_self
      rw [List.cons_append, titleFrom_cons_of_not_breaksWord hd,
        ih fun e he => h e (List.mem_cons_of_mem _ he), List.flatMap_cons, List.append_assoc]
      rfl

theorem flatMap_lowerChar_eq_self {ds : List Char} (h : ∀ d ∈ ds, lowerChar d = [d]) :
    ds.flatMap lowerChar = ds := by
  induction ds with
  | nil => rfl
  | cons d ds ih =>
      rw [List.flatMap_cons, h d List.mem_cons_self, ih fun e he => h e (List.mem_cons_of_mem _ he)]
      rfl

/-- Small letters that stay as many are the same small letters only if each of them is. -/
theorem flatMap_lowerChar_eq_self_iff {ds : List Char} (h : ∀ d ∈ ds, (lowerChar d).length = 1) :
    ds.flatMap lowerChar = ds ↔ ∀ d ∈ ds, lowerChar d = [d] := by
  refine ⟨fun heq => ?_, flatMap_lowerChar_eq_self⟩
  induction ds with
  | nil => simp
  | cons d ds ih =>
      obtain ⟨hd, hds⟩ := List.forall_mem_cons.1 h
      obtain ⟨e, he⟩ := List.length_eq_one_iff.1 hd
      rw [List.flatMap_cons, he, List.singleton_append, List.cons.injEq] at heq
      obtain ⟨rfl, heq⟩ := heq
      exact List.forall_mem_cons.2 ⟨he, ih hds heq⟩

theorem length_flatMap_lowerChar {ds : List Char} (h : ∀ d ∈ ds, (lowerChar d).length = 1) :
    (ds.flatMap lowerChar).length = ds.length := by
  induction ds with
  | nil => rfl
  | cons d ds ih =>
      obtain ⟨hd, hds⟩ := List.forall_mem_cons.1 h
      rw [List.flatMap_cons, List.length_append, hd, ih hds, List.length_cons, Nat.add_comm]

/-- The small letters of a word stay as they are. -/
theorem titleFrom_lowerChar_append {c : Char} (h : breaksWord c = false) (cs : List Char) :
    titleFrom false (lowerChar c ++ cs) = lowerChar c ++ titleFrom false cs := by
  rw [titleFrom_false_append fun d => breaksWord_of_mem_lowerChar h,
    flatMap_lowerChar_eq_self fun d hd =>
      lowerChar_of_not_capital (not_capital_of_mem_lowerChar hd)]

/-- At the start of a word, a capital and what follows it stay as they are exactly if both do. -/
theorem titleFrom_upperChar_append_eq_iff {c : Char} (h : breaksWord c = false) (cs : List Char) :
    titleFrom true (upperChar c ++ cs) = upperChar c ++ cs ↔
      CapitalStays c ∧ titleFrom false cs = cs := by
  obtain ⟨d, ds, hcapital, hd, hlength⟩ := exists_upperChar_eq_cons c
  have hwhole : ∀ e ∈ d :: ds, breaksWord e = false := by
    intro e he
    rw [← hcapital] at he
    exact breaksWord_of_mem_upperChar h he
  obtain ⟨hfirst, hrest⟩ := List.forall_mem_cons.1 hwhole
  have hagain : titleFrom true (d :: ds ++ cs) = d :: (ds.flatMap lowerChar ++ titleFrom false cs) := by
    rw [List.cons_append, titleFrom_cons_of_not_breaksWord hfirst, if_pos rfl, hd,
      titleFrom_false_append hrest]
    rfl
  rw [CapitalStays, hcapital, hagain, List.cons_append, List.cons.injEq, List.tail_cons,
    ← flatMap_lowerChar_eq_self_iff hlength]
  constructor
  · rintro ⟨-, heq⟩
    exact List.append_inj heq (length_flatMap_lowerChar hlength)
  · rintro ⟨hds, hcs⟩
    exact ⟨rfl, by rw [hds, hcs]⟩

theorem titleFrom_titleFrom_eq_iff (cs : List Char) (atStart : Bool) :
    titleFrom atStart (titleFrom atStart cs) = titleFrom atStart cs ↔
      ∀ c ∈ wordStarts atStart cs, CapitalStays c := by
  induction cs generalizing atStart with
  | nil => simp [titleFrom, wordStarts]
  | cons c cs ih =>
      cases hbreak : breaksWord c with
      | true =>
          rw [titleFrom_cons_of_breaksWord hbreak, titleFrom_cons_of_breaksWord hbreak,
            List.cons.injEq, ih, wordStarts, if_pos hbreak]
          simp
      | false =>
          have hne : ¬ breaksWord c = true := by simp [hbreak]
          rw [titleFrom_cons_of_not_breaksWord hbreak, wordStarts, if_neg hne]
          cases atStart with
          | true =>
              rw [if_pos rfl, if_pos rfl, titleFrom_upperChar_append_eq_iff hbreak, ih,
                List.forall_mem_cons]
          | false =>
              rw [if_neg (by simp), if_neg (by simp), titleFrom_lowerChar_append hbreak,
                List.append_cancel_left_eq, ih]

/-- **Writing a text with capitals again.** It changes nothing exactly when no word of the text starts with a
letter whose capital has a capital after its first letter. -/
theorem title_title_eq_iff (s : String) :
    title (title s) = title s ↔ ∀ c ∈ wordStarts true s.toList, CapitalStays c := by
  rw [← titleFrom_titleFrom_eq_iff, title, title, String.toList_ofList, String.ofList_inj]

/-- The capital of ß is SS, of which the second letter becomes small. -/
theorem title_title_ne_eszett : title (title "ß") ≠ title "ß" := by
  decide +kernel

/-! ## Blank texts -/

/-- A text that is not blank is not blank with capitals either. -/
theorem exists_not_blank_titleFrom {cs : List Char} (h : ∃ c ∈ cs, isBlank c = false)
    (atStart : Bool) : ∃ d ∈ titleFrom atStart cs, isBlank d = false := by
  induction cs generalizing atStart with
  | nil => simp at h
  | cons c cs ih =>
      obtain ⟨x, hx, hblank⟩ := h
      cases hbreak : breaksWord c with
      | true =>
          rw [titleFrom_cons_of_breaksWord hbreak]
          rcases List.mem_cons.1 hx with rfl | hx
          · exact ⟨x, List.mem_cons_self, hblank⟩
          · obtain ⟨d, hd, hdb⟩ := ih ⟨x, hx, hblank⟩ true
            exact ⟨d, List.mem_cons_of_mem _ hd, hdb⟩
      | false =>
          -- A character of a word has a capital and a small letter, and neither is blank.
          rw [titleFrom_cons_of_not_breaksWord hbreak]
          cases atStart with
          | true =>
              obtain ⟨d, ds, hcapital, -⟩ := exists_upperChar_eq_cons c
              have hd : d ∈ upperChar c := by
                rw [hcapital]
                exact List.mem_cons_self
              exact ⟨d, List.mem_append_left _ hd,
                isBlank_of_not_breaksWord (breaksWord_of_mem_upperChar hbreak hd)⟩
          | false =>
              obtain ⟨d, hd⟩ := exists_mem_lowerChar c
              exact ⟨d, List.mem_append_left _ hd,
                isBlank_of_not_breaksWord (breaksWord_of_mem_lowerChar hbreak hd)⟩

theorem isAllBlank_eq_false_iff {s : String} :
    isAllBlank s = false ↔ ∃ c ∈ s.toList, isBlank c = false := by
  simp [isAllBlank]

theorem isAllBlank_title {s : String} (h : isAllBlank s = false) : isAllBlank (title s) = false := by
  rw [isAllBlank_eq_false_iff] at h ⊢
  rw [title, String.toList_ofList]
  exact exists_not_blank_titleFrom h true

end Audience.Text
