import Audience.Proofs.Sentence.Composed
import Audience.Proofs.Sentence.Mentioned
import Audience.Proofs.Sentence.Synonyms
import Audience.Proofs.Text.Words

set_option autoImplicit false

/-! # Places in sentences

A place is named by the stretch of text between a cue with its blanks and the next mark or word that ends
a name. That end is looked for in what follows the cue, on its own, and blanks are taken off afterwards;
neither makes or hides an end (`head?_after_name`), so the name holds none (`Name`), and it is taken at
the first cue with a name after it (`city_is_name_after_cue`).

Words that speak of a time or a quantity are told by the blank after them, but a name ends at marks, too.
So such a word is taken for a place where a mark follows it at once, and only there
(`city_led_iff_mark_follows`). -/

namespace Audience.Sentence

/-! ## Cues -/

/-- Words that a place comes after. -/
def placeCueWords : List String :=
  ["living in", "located in", "based in", "in", "at", "from"]

/-- Marks that end the name of a place. -/
def placeEndMarks : List Char :=
  [',', '.', ';', ':', '!', '?', '(', ')']

/-- Words that end the name of a place. -/
def placeEndWords : List String :=
  ["who", "whom", "that", "which", "with", "and", "or", "aged", "age", "purchased", "spent", "paid",
    "between", "from", "in", "at", "within", "during", "since"]

theorem placeCue_eq : placeCue = .seq .boundary (.seq (anyOf placeCueWords) blanks) := rfl

theorem placeEnd_eq :
    placeEnd = .alt (.char placeEndMarks.contains)
      (.seq .boundary (.seq (anyOf placeEndWords) .boundary)) := rfl

/-- A cue takes all blanks that follow it. -/
theorem head?_rest_of_cue {before : Option Char} {cs : List Char} {m : Match}
    (h : placeCue.matchAt? before cs = some m) : m.rest.head?.any Text.isBlank = false := by
  obtain ⟨q, hq, rfl⟩ := Option.map_eq_some_iff.1 h
  rw [placeCue_eq] at hq
  obtain ⟨r, -, hr⟩ := Pattern.exists_of_head?_ends_seq hq
  obtain ⟨r', -, hr'⟩ := Pattern.exists_of_head?_ends_seq hr
  exact Place.head?_runs hr'

/-- What is found in a text as a cue: one of the words as a whole, and the blanks after it. -/
theorem cue_of_mem_matches {cs : List Char} {m : Match} (h : m ∈ placeCue.matches cs) :
    ∃ before space, ∃ cue ∈ placeCueWords, cs = before ++ m.text ++ m.rest ∧
      m.text = cue.toList ++ space ∧ isBoundary before.getLast? cue.toList.head? = true ∧ space ≠ [] ∧
      (∀ c ∈ space, Text.isBlank c = true) ∧ m.rest.head?.any Text.isBlank = false := by
  obtain ⟨before, tail, rfl, hm⟩ := Pattern.exists_of_mem_matchesFrom h
  rw [Option.or_none] at hm
  obtain ⟨rfl, hreads⟩ := Pattern.reads_of_matchAt? hm
  rw [placeCue_eq, Pattern.reads_boundary_seq_iff] at hreads
  obtain ⟨hplace, hreads⟩ := hreads
  obtain ⟨s, space, g₁, g₂, htext, -, hcue, hblanks⟩ := Pattern.reads_seq_iff.1 hreads
  obtain ⟨⟨cue, hmem, rfl⟩, -⟩ := Pattern.reads_anyOf_iff.1 hcue
  obtain ⟨⟨hspace, hleast, -⟩, -⟩ := Pattern.reads_run_iff.1 hblanks
  refine ⟨before, space, cue, hmem, (List.append_assoc _ _ _).symm, htext, ?_, ?_, hspace,
    head?_rest_of_cue hm⟩
  · have hsome : ∀ w ∈ placeCueWords, w.toList.head?.isSome = true := by decide
    rwa [htext, List.head?_append, Option.or_assoc, Option.or_of_isSome (hsome cue hmem)] at hplace
  · intro hnil
    simp [hnil] at hleast

/-! ## Names -/

/-- A name that is cut out of a text cleanly. -/
structure Name (name : List Char) : Prop where
  two_le_length : 2 ≤ name.length
  head_not_blank : name.head?.any Text.isBlank = false
  last_not_blank : name.getLast?.any Text.isBlank = false
  head_not_digit : name.head?.any Char.isDigit = false
  no_mark : ∀ c ∈ name, c ∉ placeEndMarks
  no_word : ∀ w ∈ placeEndWords, ¬ StandsIn w.toList name

/-- Whether no place is named after a cue: a digit follows, or a word that speaks of a time or a quantity,
or at most one character is left of a name. -/
def NamesNoPlace (cs : List Char) : Prop :=
  cs.head?.any Char.isDigit = true ∨
    (∃ lead ∈ nonPlaceLeads, (Text.words cs).head? = some lead.toList) ∨
    (Text.trim (placeEnd.before cs)).length ≤ 1

theorem contains_nonPlaceLeads_iff {cs : List Char} :
    nonPlaceLeads.contains (.ofList ((Text.words cs).headD [])) = true ↔
      ∃ lead ∈ nonPlaceLeads, (Text.words cs).head? = some lead.toList := by
  have hlead : ∀ lead ∈ nonPlaceLeads, lead.toList ≠ [] := by decide
  rw [List.contains_iff_mem, List.headD_eq_head?_getD]
  constructor
  · intro h
    refine ⟨_, h, ?_⟩
    rw [String.toList_ofList]
    cases hwords : (Text.words cs).head? with
    | none =>
        rw [hwords] at h
        exact absurd String.toList_ofList (hlead _ h)
    | some w => rfl
  · rintro ⟨lead, hmem, hfirst⟩
    rwa [hfirst, Option.getD_some, String.ofList_toList]

theorem placeAt?_eq_none_iff {cs : List Char} : placeAt? cs = none ↔ NamesNoPlace cs := by
  rw [NamesNoPlace, ← contains_nonPlaceLeads_iff, placeAt?]
  by_cases hdigit : cs.head?.any Char.isDigit = true
  · simp [hdigit]
  · by_cases hlead : nonPlaceLeads.contains (.ofList ((Text.words cs).headD [])) = true
    · simp only [hdigit, hlead, if_true, true_or, or_true, ite_self]
    · by_cases hshort : (Text.trim (placeEnd.before cs)).length ≤ 1
      · simp only [hshort, if_true, or_true, ite_self]
      · simp only [hdigit, hlead, hshort, if_false, or_false, reduceCtorEq]

theorem placeAt?_eq_some {cs name : List Char} (h : placeAt? cs = some name) :
    ¬ NamesNoPlace cs ∧ name = Text.trim (placeEnd.before cs) := by
  refine ⟨?_, ?_⟩
  · intro hnone
    rw [placeAt?_eq_none_iff.2 hnone] at h
    simp at h
  · rw [placeAt?] at h
    split at h
    · simp at h
    · split at h
      · simp at h
      · dsimp only at h
        split at h
        · simp at h
        · exact (Option.some.inj h).symm

/-- The words that end a name are not empty, and end with a word character. -/
theorem word_of_mem_placeEndWords {w : String} (h : w ∈ placeEndWords) :
    w.toList.head?.isSome = true ∧ w.toList.getLast?.isSome = true ∧
      w.toList.getLast?.any Text.isWord = true := by
  have hall : ∀ w ∈ placeEndWords, w.toList.head?.isSome = true ∧
      w.toList.getLast?.isSome = true ∧ w.toList.getLast?.any Text.isWord = true := by decide +kernel
  exact hall w h

/-- A name ends at a mark, or at one of the words as a whole. -/
theorem reads_placeEnd_iff {before after : Option Char} {s : List Char}
    {g : List (Nat × List Char)} :
    placeEnd.Reads before s after g ↔
      ((∃ c ∈ placeEndMarks, s = [c]) ∨ ∃ w ∈ placeEndWords, s = w.toList ∧
        isBoundary before s.head? = true ∧ isBoundary s.getLast? after = true) ∧ g = [] := by
  rw [placeEnd_eq, Pattern.reads_alt_iff, Pattern.reads_char_iff, Pattern.reads_boundary_seq_iff,
    Pattern.reads_seq_boundary_iff, Pattern.reads_anyOf_iff, or_and_right]
  refine or_congr ?_ ?_
  · simp only [List.contains_iff_mem]
  · constructor
    · rintro ⟨hstart, ⟨⟨w, hw, rfl⟩, hg⟩, hstop⟩
      obtain ⟨hfirst, hlast, -⟩ := word_of_mem_placeEndWords hw
      rw [Option.or_of_isSome hfirst] at hstart
      rw [Option.or_of_isSome hlast] at hstop
      exact ⟨⟨w, hw, rfl, hstart, hstop⟩, hg⟩
    · rintro ⟨⟨w, hw, rfl, hstart, hstop⟩, hg⟩
      obtain ⟨hfirst, hlast, -⟩ := word_of_mem_placeEndWords hw
      rw [Option.or_of_isSome hfirst, Option.or_of_isSome hlast]
      exact ⟨hstart, ⟨⟨w, hw, rfl⟩, hg⟩, hstop⟩

/-- What starts a text has no other first character than the text. -/
theorem any_head?_of_prefix {α : Type} {p : α → Bool} {s t : List α} (h : s <+: t)
    (ht : t.head?.any p = false) : s.head?.any p = false := by
  obtain ⟨u, rfl⟩ := h
  cases s with
  | nil => rfl
  | cons a s => exact ht

section Span

variable {cs name space tail : List Char}

/-- The end of a name is the end of a word: what follows is a blank that is taken off, a mark, or a word
that begins. -/
theorem head?_after_name (hcs : cs = name ++ (space ++ tail))
    (hbefore : placeEnd.before cs = name ++ space) (hspace : ∀ c ∈ space, Text.isBlank c = true)
    (hword : name.getLast?.any Text.isWord = true) :
    (space ++ tail).head?.any Text.isWord = false := by
  cases space with
  | cons c space => exact Text.isWord_of_isBlank (hspace c List.mem_cons_self)
  | nil =>
      obtain ⟨tail', htail, -, hend⟩ := Pattern.before_spec placeEnd cs
      obtain rfl : tail = tail' := by
        rw [hbefore, List.append_nil] at htail
        exact List.append_cancel_left (hcs.symm.trans htail)
      rcases hend with rfl | ⟨s, rest, g, rfl, hreads⟩
      · rfl
      · rw [hbefore, List.append_nil] at hreads
        rcases (reads_placeEnd_iff.1 hreads).1 with ⟨c, hc, rfl⟩ | ⟨w, hw, rfl, hstart, -⟩
        · have hmarks : placeEndMarks.any Text.isWord = false := by decide +kernel
          simpa using List.any_eq_false.1 hmarks c hc
        · rw [isBoundary_iff_of_word hword] at hstart
          rwa [List.nil_append, List.head?_append,
            Option.or_of_isSome (word_of_mem_placeEndWords hw).1]

/-- Nothing that ends a name stands in it. -/
theorem not_reads_placeEnd (hcs : cs = name ++ (space ++ tail))
    (hbefore : placeEnd.before cs = name ++ space) {a s b : List Char}
    {g : List (Nat × List Char)} (hname : name = a ++ s ++ b) (hs : s ≠ []) :
    ¬ placeEnd.Reads a.getLast? s (b ++ (space ++ tail)).head? g := by
  intro hreads
  obtain ⟨-, -, hfirst, -⟩ := Pattern.before_spec placeEnd cs
  have hle : (placeEnd.before cs).length ≤ a.length := by
    refine hfirst a s (b ++ (space ++ tail)) g ?_ hreads
    rw [hcs, hname, List.append_assoc]
  have hpos : 0 < s.length := List.length_pos_iff.2 hs
  simp only [hbefore, hname, List.length_append] at hle
  omega

end Span

/-- What is taken for the name of a place is one, and it ends where a word ends. -/
theorem name_of_placeAt? {cs name : List Char} (hstart : cs.head?.any Text.isBlank = false)
    (h : placeAt? cs = some name) :
    ∃ after, cs = name ++ after ∧ Name name ∧
      (name.getLast?.any Text.isWord = true → after.head?.any Text.isWord = false) := by
  obtain ⟨hnames, hname⟩ := placeAt?_eq_some h
  obtain ⟨hdigit, -, hshort⟩ : _ ∧ _ ∧ _ := by simpa only [NamesNoPlace, not_or] using hnames
  obtain ⟨tail, htail, -, -⟩ := Pattern.before_spec placeEnd cs
  have hcut : (placeEnd.before cs).head?.any Text.isBlank = false :=
    any_head?_of_prefix ⟨tail, htail.symm⟩ hstart
  obtain ⟨space, hbefore, hspace⟩ := Text.exists_append_blanks_of_head hcut
  rw [← hname] at hbefore hshort
  have hcs : cs = name ++ (space ++ tail) := by rw [← List.append_assoc, ← hbefore, ← htail]
  have hprefix : name <+: cs := ⟨space ++ tail, hcs.symm⟩
  have hend := head?_after_name hcs hbefore hspace
  refine ⟨space ++ tail, hcs, ⟨by omega, ?_, ?_, ?_, ?_, ?_⟩, hend⟩
  · exact any_head?_of_prefix hprefix hstart
  · rw [hname]
    exact Text.getLast?_trim _
  · exact any_head?_of_prefix hprefix (by simpa using hdigit)
  · intro c hc hmark
    obtain ⟨a, b, hsplit⟩ := List.append_of_mem hc
    have hsplit' : name = a ++ [c] ++ b := by rw [hsplit, List.append_assoc, List.singleton_append]
    exact not_reads_placeEnd hcs hbefore hsplit' (List.cons_ne_nil c [])
      (reads_placeEnd_iff.2 ⟨.inl ⟨c, hmark, rfl⟩, rfl⟩)
  · rintro w hw ⟨a, b, hsplit, hfirst, hlast⟩
    obtain ⟨hsome, -, hword⟩ := word_of_mem_placeEndWords hw
    refine not_reads_placeEnd hcs hbefore hsplit (List.isSome_head?.1 hsome)
      (reads_placeEnd_iff.2 ⟨.inr ⟨w, hw, rfl, hfirst, ?_⟩, rfl⟩)
    -- Where the name goes on after the word, the text goes on in the same way.
    rw [isBoundary_iff_of_word hword] at hlast ⊢
    cases b with
    | cons c b => exact hlast
    | nil =>
        refine hend ?_
        rw [hsplit, List.append_nil]
        exact any_getLast?_append a hword

/-! ## Places -/

/-- The name of a place in a text: it comes after a cue, which begins where a word begins, and its
blanks. -/
structure PlaceIn (cs : List Char) where
  before : List Char
  cue : String
  space : List Char
  name : List Char
  after : List Char
  text_eq : cs = before ++ (cue.toList ++ space) ++ (name ++ after)
  cue_mem : cue ∈ placeCueWords
  boundary : isBoundary before.getLast? cue.toList.head? = true
  space_ne_nil : space ≠ []
  space_blank : ∀ c ∈ space, Text.isBlank c = true

/-- Whether a place is the one that a text is searched for: of all cues, in the order of the search, its
own is the first that a name comes after. -/
def PlaceIn.IsFirst {cs : List Char} (p : PlaceIn cs) : Prop :=
  ∃ earlier m later, placeCue.matches cs = earlier ++ m :: later ∧
    m.text = p.cue.toList ++ p.space ∧ m.rest = p.name ++ p.after ∧ ¬ NamesNoPlace m.rest ∧
    ∀ m' ∈ earlier, NamesNoPlace m'.rest

/-- A place that is found is the first one of the text, and its name ends where a word ends. -/
theorem exists_of_place? {cs : List Char} {e : Entity} (h : place? cs = some e) :
    ∃ p : PlaceIn cs, e = equals .customers "city" p.name ∧ p.IsFirst ∧ Name p.name ∧
      (p.name.getLast?.any Text.isWord = true → p.after.head?.any Text.isWord = false) := by
  obtain ⟨name, hfound, rfl⟩ := Option.map_eq_some_iff.1 h
  obtain ⟨earlier, m, later, hmatches, hname, hpassed⟩ := List.findSome?_eq_some_iff.1 hfound
  have hm : m ∈ placeCue.matches cs := by simp [hmatches]
  obtain ⟨before, space, cue, hcue, hcs, htext, hboundary, hspace, hblank, hstart⟩ :=
    cue_of_mem_matches hm
  obtain ⟨after, hrest, hclean, hend⟩ := name_of_placeAt? hstart hname
  rw [htext, hrest] at hcs
  refine ⟨⟨before, cue, space, name, after, hcs, hcue, hboundary, hspace, hblank⟩, rfl, ?_, hclean, hend⟩
  refine ⟨earlier, m, later, hmatches, htext, hrest, (placeAt?_eq_some hname).1, ?_⟩
  intro m' hm'
  exact placeAt?_eq_none_iff.1 (hpassed m' hm')

/-- **Places are names.** A city that a sentence mentions is a clean name, cut out of the text with its
synonyms replaced right after a cue and its blanks. Cues before that one are passed over only because of
a digit, a word that speaks of a time or a quantity, or a name that is too short. -/
theorem city_is_name_after_cue {text dataset operator : String} {value value2 : Scalar}
    (h : Entity.attribute dataset "city" operator value value2 ∈ entities text) :
    ∃ p : PlaceIn (replaceSynonyms (Text.lower text.toList)),
      value = .text (.ofList p.name) ∧ Name p.name ∧ p.IsFirst := by
  obtain ⟨p, he, hfirst, hname, -⟩ := exists_of_place? (place?_of_mem_mentioned h rfl)
  obtain ⟨-, -, -, hvalue, -⟩ := Entity.attribute.inj he
  exact ⟨p, hvalue, hname, hfirst⟩

/-- A cue with a time after it is passed over. -/
theorem city_is_name_after_cue_hue :
    Entity.attribute "customers" "city" "equals" (.text "hue") .null
        ∈ entities "in a week in hue" ∧
      ∃ p : PlaceIn (replaceSynonyms (Text.lower "in a week in hue".toList)),
        Scalar.text "hue" = .text (.ofList p.name) ∧ Name p.name ∧ p.IsFirst := by
  have hmem : Entity.attribute "customers" "city" "equals" (.text "hue") .null
      ∈ entities "in a week in hue" := by
    rw [entities_eq_mentioned (by decide +kernel) (by decide +kernel)]
    decide +kernel
  exact ⟨hmem, city_is_name_after_cue hmem⟩

/-! ## Words for times and quantities -/

/-- The first word of a name is the first word of the text from there on. -/
theorem takeWhile_name {name after : List Char} (hne : name ≠ [])
    (hend : name.getLast?.any Text.isWord = true → after.head?.any Text.isWord = false) :
    (name ++ after).takeWhile Text.isWord = name.takeWhile Text.isWord := by
  by_cases hlast : name.getLast?.any Text.isWord = true
  · exact takeWhile_append_of_head name (hend hlast)
  · exact takeWhile_append_of_getLast hne (by simpa using hlast)

/-- The words for times and quantities are whole words. -/
theorem isWord_of_mem_nonPlaceLeads {lead : String} (h : lead ∈ nonPlaceLeads) :
    Text.IsWord lead.toList ∧ lead.toList.takeWhile Text.isWord = lead.toList := by
  have hall : ∀ lead ∈ nonPlaceLeads, lead.toList ≠ [] ∧ lead.toList.any Text.isBlank = false ∧
      lead.toList.takeWhile Text.isWord = lead.toList := by decide +kernel
  obtain ⟨hne, hblank, hrun⟩ := hall lead h
  refine ⟨⟨hne, ?_⟩, hrun⟩
  intro c hc
  simpa using List.any_eq_false.1 hblank c hc

/-- What follows a cue is taken for a place although it starts with a word for a time or a quantity, as a
whole, exactly where a character follows that is neither a blank nor part of a word. -/
theorem led_iff_mark_follows {name after : List Char} (hnamed : ¬ NamesNoPlace (name ++ after))
    (hfirst : (name ++ after).takeWhile Text.isWord = name.takeWhile Text.isWord) :
    (∃ lead ∈ nonPlaceLeads, name.takeWhile Text.isWord = lead.toList) ↔
      ∃ lead ∈ nonPlaceLeads, ∃ c rest, name ++ after = lead.toList ++ c :: rest ∧
        Text.isWord c = false ∧ Text.isBlank c = false := by
  rw [← hfirst]
  constructor
  · rintro ⟨lead, hlead, hrun⟩
    obtain ⟨rest, hrest⟩ : ∃ rest, rest = (name ++ after).dropWhile Text.isWord := ⟨_, rfl⟩
    have hsplit : name ++ after = lead.toList ++ rest := by
      rw [← hrun, hrest, List.takeWhile_append_dropWhile]
    have hword : rest.head?.any Text.isWord = false := hrest ▸ Text.head?_dropWhile_any _
    -- A blank, or the end of the text, would have told the word.
    have hblank : ¬ rest.head?.all Text.isBlank = true := by
      intro hblank
      refine hnamed (.inr (.inl ⟨lead, hlead, ?_⟩))
      rw [hsplit]
      exact Text.head?_words_append (isWord_of_mem_nonPlaceLeads hlead).1 hblank
    cases rest with
    | nil => exact absurd rfl hblank
    | cons c rest => exact ⟨lead, hlead, c, rest, hsplit, hword, by simpa using hblank⟩
  · rintro ⟨lead, hlead, c, rest, hsplit, hword, -⟩
    refine ⟨lead, hlead, ?_⟩
    have hhead : (c :: rest).head?.any Text.isWord = false := hword
    rw [hsplit, takeWhile_append_of_head _ hhead, (isWord_of_mem_nonPlaceLeads hlead).2]

/-- **Words for times and quantities.** A city that a sentence mentions begins with such a word exactly
where a mark follows the word at once: words are told by blanks, and names end at marks. -/
theorem city_led_iff_mark_follows {text dataset operator : String} {value value2 : Scalar}
    (h : Entity.attribute dataset "city" operator value value2 ∈ entities text) :
    ∃ p : PlaceIn (replaceSynonyms (Text.lower text.toList)),
      value = .text (.ofList p.name) ∧ p.IsFirst ∧
      ((∃ lead ∈ nonPlaceLeads, p.name.takeWhile Text.isWord = lead.toList) ↔
        ∃ lead ∈ nonPlaceLeads, ∃ c rest, p.name ++ p.after = lead.toList ++ c :: rest ∧
          Text.isWord c = false ∧ Text.isBlank c = false) := by
  obtain ⟨p, he, hfirst, hname, hend⟩ := exists_of_place? (place?_of_mem_mentioned h rfl)
  obtain ⟨-, -, -, hvalue, -⟩ := Entity.attribute.inj he
  refine ⟨p, hvalue, hfirst, ?_⟩
  obtain ⟨earlier, m, later, -, -, hrest, hnamed, -⟩ := hfirst
  rw [hrest] at hnamed
  have hne : p.name ≠ [] := by
    intro hnil
    have hlength := hname.two_le_length
    simp [hnil] at hlength
  exact led_iff_mark_follows hnamed (takeWhile_name hne hend)

theorem city_most_mem :
    Entity.attribute "customers" "city" "equals" (.text "most") .null
      ∈ entities "at most, 3 times" := by
  rw [entities_eq_mentioned (by decide +kernel) (by decide +kernel)]
  decide +kernel

theorem city_led_iff_mark_follows_most :
    Entity.attribute "customers" "city" "equals" (.text "most") .null
        ∈ entities "at most, 3 times" ∧
      ∃ p : PlaceIn (replaceSynonyms (Text.lower "at most, 3 times".toList)),
        Scalar.text "most" = .text (.ofList p.name) ∧ p.IsFirst ∧
        ((∃ lead ∈ nonPlaceLeads, p.name.takeWhile Text.isWord = lead.toList) ↔
          ∃ lead ∈ nonPlaceLeads, ∃ c rest, p.name ++ p.after = lead.toList ++ c :: rest ∧
            Text.isWord c = false ∧ Text.isBlank c = false) :=
  ⟨city_most_mem, city_led_iff_mark_follows city_most_mem⟩

/-- A quantity with a comma after it is taken for a city. -/
theorem city_led_by_most :
    ∃ city, Entity.attribute "customers" "city" "equals" (.text city) .null
        ∈ entities "at most, 3 times" ∧
      ∃ lead ∈ nonPlaceLeads, city.toList.takeWhile Text.isWord = lead.toList :=
  ⟨"most", city_most_mem, "most", by decide, by decide +kernel⟩

end Audience.Sentence
