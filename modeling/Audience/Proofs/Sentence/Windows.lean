import Audience.Proofs.Number.Integer
import Audience.Proofs.Sentence.Composed
import Audience.Proofs.Sentence.Mentioned
import Audience.Proofs.Sentence.Synonyms

set_option autoImplicit false

/-! # Windows in sentences

A window is written as a number and a unit after a cue, and the number may be left out
(`WindowIn`). Digits of every script are taken for part of a number, and there may be any number of them,
but only ASCII digits are read, and only up to 64 bits (`readInt64?_of_digits`). A number that is not read
makes a window as long as no number makes, so the length is the number that is written exactly where that
is read or happens to be one (`window_length_eq_iff`). -/

namespace Audience

/-! ## Numbers in digits of any script -/

namespace Text

/-- The value of a digit: its place among the ten digits of its script. -/
def digitValue (c : Char) : Nat :=
  match digitRanges.find? fun r => r.1 ≤ c.toNat && c.toNat ≤ r.2 with
  | some r => (c.toNat - r.1) % 10
  | none => 0

/-- The number that digits of any script write. -/
def numberWritten (ds : List Char) : Nat :=
  ds.foldl (fun n c => 10 * n + digitValue c) 0

theorem digitValue_of_isDigit {c : Char} (h : c.isDigit = true) : digitValue c = c.toNat - '0'.toNat := by
  obtain ⟨hlow, hhigh⟩ := Char.isDigit_iff_toNat.1 h
  have hzero : '0'.toNat = 0x30 := rfl
  have hnine : '9'.toNat = 0x39 := rfl
  rw [hzero] at hlow ⊢
  rw [hnine] at hhigh
  have hranges : digitRanges = (0x30, 0x39) :: digitRanges.tail := rfl
  rw [digitValue, hranges, List.find?_cons_of_pos (by simp [hlow, hhigh])]
  exact Nat.mod_eq_of_lt (by omega)

/-- ASCII digits write the number that they are read as. -/
theorem numberWritten_of_isDigit {ds : List Char} (h : ∀ c ∈ ds, c.isDigit = true) :
    numberWritten ds = Nat.ofDigitChars 10 ds 0 := by
  have hfold : ∀ n, ds.foldl (fun n c => 10 * n + digitValue c) n = Nat.ofDigitChars 10 ds n := by
    induction ds with
    | nil => intro n; rfl
    | cons c ds ih =>
        intro n
        obtain ⟨hc, hds⟩ := List.forall_mem_cons.1 h
        rw [List.foldl_cons, Nat.ofDigitChars_cons, digitValue_of_isDigit hc, ih hds]
  exact hfold 0

end Text

namespace Number

/-- Whether digits are those that are read, and write a number that fits 64 bits. -/
def IsRead (ds : List Char) : Prop :=
  (∀ c ∈ ds, c.isDigit = true) ∧ Text.numberWritten ds ≤ Int64.maxValue.toInt

/-- Digits have no sign in front. -/
theorem readInt?_of_digits {ds : List Char} (h : ∀ c ∈ ds, Text.isDigit c = true) :
    readInt? ds = (readNat? ds).map fun n : Nat => (n : Int) := by
  have hsign : Text.isDigit '-' = false ∧ Text.isDigit '+' = false := by decide
  cases ds with
  | nil => rfl
  | cons c ds =>
      have hc := h c List.mem_cons_self
      have hminus : c ≠ '-' := by
        rintro rfl
        simp [hsign.1] at hc
      have hplus : c ≠ '+' := by
        rintro rfl
        simp [hsign.2] at hc
      cases hread : readNat? (c :: ds) <;> simp [readInt?, hminus, hplus, hread]

/-- Of digits of any script, ASCII digits are read, and only up to 64 bits. -/
theorem readInt64?_of_digits {ds : List Char} (hne : ds ≠ [])
    (h : ∀ c ∈ ds, Text.isDigit c = true) :
    (IsRead ds → ∃ n, readInt64? ds = some n ∧ n.toInt = Text.numberWritten ds) ∧
      (¬ IsRead ds → readInt64? ds = none) := by
  rw [readInt64?, readInt?_of_digits h]
  have hmin : Int64.minValue.toInt = -2 ^ 63 := rfl
  have hmax : Int64.maxValue.toInt = 2 ^ 63 - 1 := rfl
  constructor
  · rintro ⟨hascii, hsmall⟩
    rw [readNat?_digits hne hascii, ← Text.numberWritten_of_isDigit hascii, Option.map_some,
      Option.bind_some, int64?, if_pos (by omega)]
    exact ⟨_, rfl, Int64.toInt_ofInt_of_le (by omega) (by omega)⟩
  · intro hnot
    by_cases hascii : ∀ c ∈ ds, c.isDigit = true
    · rw [readNat?_digits hne hascii, ← Text.numberWritten_of_isDigit hascii, Option.map_some,
        Option.bind_some, int64?, if_neg]
      rintro ⟨-, hle⟩
      exact hnot ⟨hascii, by omega⟩
    · have hnone : readNat? ds = none := by
        rw [Option.eq_none_iff_forall_ne_some]
        intro n hn
        exact hascii (readNat?_eq_some_iff.1 hn).2.1
      rw [hnone]
      rfl

end Number

namespace Sentence

/-! ## Units -/

/-- The units of time. -/
def unitNames : List String :=
  ["day", "week", "month"]

/-- Whether a word names a unit of time, with its plural ending or without. -/
def IsUnitWord (word : List Char) : Prop :=
  ∃ unit ∈ unitNames, word = unit.toList ∨ word = unit.toList ++ ['s']

theorem reads_unitWord {n : Nat} {before after : Option Char} {s : List Char}
    {g : List (Nat × List Char)} (h : (unitWord n).Reads before s after g) :
    IsUnitWord s ∧ g = [(n, s)] := by
  obtain ⟨g', rfl, hword⟩ := Pattern.reads_group_iff.1 h
  have hwords : (firstOf (unitNames.map plural)).Reads before s after g' := hword
  obtain ⟨p, hp, hreads⟩ := Pattern.reads_firstOf_iff.1 hwords
  obtain ⟨unit, hunit, rfl⟩ := List.mem_map.1 hp
  obtain ⟨hs, rfl⟩ := Pattern.reads_plural_iff.1 hreads
  exact ⟨⟨unit, hunit, hs⟩, rfl⟩

/-- A number of units: digits, which may be left out together with the blanks after them, and a unit. -/
theorem reads_unitCount {count unit : Nat} {before after : Option Char} {u : List Char}
    {g : List (Nat × List Char)} (h : (unitCount count unit).Reads before u after g) :
    ∃ number space word, u = number ++ space ++ word ∧ (∀ c ∈ number, Text.isDigit c = true) ∧
      (∀ c ∈ space, Text.isBlank c = true) ∧ (number = [] → space = []) ∧
      IsUnitWord word ∧ g = (unit, word) :: (if number = [] then [] else [(count, number)]) := by
  obtain ⟨s, word, g₁, g₂, rfl, rfl, hnumber, hword⟩ := Pattern.reads_seq_iff.1 h
  obtain ⟨hunit, rfl⟩ := reads_unitWord hword
  rcases Pattern.reads_opt_iff.1 hnumber with hgiven | ⟨rfl, rfl⟩
  · obtain ⟨number, space, g₃, g₄, rfl, rfl, hdigits, hgap⟩ := Pattern.reads_seq_iff.1 hgiven
    obtain ⟨g₅, rfl, hrun⟩ := Pattern.reads_group_iff.1 hdigits
    obtain ⟨⟨hdigit, hleast, -⟩, rfl⟩ := Pattern.reads_run_iff.1 hrun
    obtain ⟨⟨hblank, -, -⟩, rfl⟩ := Pattern.reads_run_iff.1 hgap
    have hne : number ≠ [] := by
      intro hnil
      simp [hnil] at hleast
    exact ⟨number, space, word, rfl, hdigit, hblank, fun hnil => absurd hnil hne, hunit, by simp [hne]⟩
  · exact ⟨[], [], word, rfl, by simp, by simp, fun _ => rfl, hunit, rfl⟩

/-! ## Cues -/

/-- Whether all that a pattern reads ends with a blank. -/
def Pattern.EndsWithBlank (a : Pattern) : Prop :=
  ∀ before s after g, a.Reads before s after g → s.getLast?.any Text.isBlank = true

theorem endsWithBlank_seqs_append {ps : List Pattern} {a : Pattern} (ha : a.EndsWithBlank) :
    (seqs (ps ++ [a])).EndsWithBlank := by
  intro before u after g h
  obtain ⟨s, t, g₁, g₂, rfl, -, -, ht⟩ := Pattern.reads_seq_iff.1 (Pattern.reads_seqs_append.1 h)
  exact any_getLast?_append s (ha _ _ _ _ ht)

theorem endsWithBlank_seqs_append_opt {ps : List Pattern} {a : Pattern}
    (hps : (seqs ps).EndsWithBlank) (ha : a.EndsWithBlank) :
    (seqs (ps ++ [.opt a])).EndsWithBlank := by
  intro before u after g h
  obtain ⟨s, t, g₁, g₂, rfl, -, hs, ht⟩ := Pattern.reads_seq_iff.1 (Pattern.reads_seqs_append.1 h)
  rcases Pattern.reads_opt_iff.1 ht with ht | ⟨rfl, -⟩
  · exact any_getLast?_append s (ha _ _ _ _ ht)
  · rw [List.append_nil]
    exact hps _ _ _ _ hs

theorem endsWithBlank_blanks : blanks.EndsWithBlank := by
  intro before s after g h
  obtain ⟨⟨hblank, hleast, -⟩, -⟩ := Pattern.reads_run_iff.1 h
  cases hlast : s.getLast? with
  | none =>
      rw [List.getLast?_eq_none_iff] at hlast
      simp [hlast] at hleast
  | some c => exact hblank c (List.mem_of_getLast? hlast)

/-- What comes before a window that something was bought in so often: the count, and a cue. -/
def frequencyLead : List Pattern :=
  [.boundary, .group 1 digits, gap, .alt (plural "time") (lit "x"), blanks, .opt (lit "with"), lit "in",
    blanks, .opt (.seq (lit "the") blanks), .opt (.seq (anyOf ["last", "past"]) blanks)]

/-- What comes before a window that something was spent in. -/
def windowLead : List Pattern :=
  [.boundary, .opt (lit "with"), lit "in", blanks, .opt (.seq (lit "the") blanks),
    anyOf ["last", "past"], blanks]

theorem frequencyCue_eq : frequencyCue = seqs (frequencyLead ++ [unitCount 2 3, .boundary]) := rfl

theorem windowCue_eq : windowCue = seqs (windowLead ++ [unitCount 1 2, .boundary]) := rfl

theorem endsWithBlank_frequencyLead : (seqs frequencyLead).EndsWithBlank := by
  have hthe : (seqs ([lit "the"] ++ [blanks])).EndsWithBlank :=
    endsWithBlank_seqs_append endsWithBlank_blanks
  have hlast : (seqs ([anyOf ["last", "past"]] ++ [blanks])).EndsWithBlank :=
    endsWithBlank_seqs_append endsWithBlank_blanks
  have hlead : frequencyLead = frequencyLead.take 7 ++ [blanks] ++ [.opt (.seq (lit "the") blanks)]
      ++ [.opt (.seq (anyOf ["last", "past"]) blanks)] := rfl
  rw [hlead]
  exact endsWithBlank_seqs_append_opt
    (endsWithBlank_seqs_append_opt (endsWithBlank_seqs_append endsWithBlank_blanks) hthe) hlast

theorem endsWithBlank_windowLead : (seqs windowLead).EndsWithBlank := by
  have hlead : windowLead = windowLead.take 6 ++ [blanks] := rfl
  rw [hlead]
  exact endsWithBlank_seqs_append endsWithBlank_blanks

/-! ## Windows -/

/-- A window in a text: a cue, a number of units, which may be left out, and the unit. -/
structure WindowIn (lead : Pattern) (cs : List Char) where
  before : List Char
  cue : List Char
  number : List Char
  space : List Char
  unit : List Char
  after : List Char
  text_eq : cs = before ++ (cue ++ (number ++ space ++ unit)) ++ after
  cue_reads : ∃ g, lead.Reads before.getLast? cue (number ++ space ++ unit ++ after).head? g
  cue_blank : cue.getLast?.any Text.isBlank = true
  number_digits : ∀ c ∈ number, Text.isDigit c = true
  space_blank : ∀ c ∈ space, Text.isBlank c = true
  space_nil : number = [] → space = []
  unit_word : IsUnitWord unit

/-- Whether a window is the one that a search finds. -/
def WindowIn.IsFirst {lead : Pattern} {cs : List Char} (p : WindowIn lead cs) (pattern : Pattern) :
    Prop :=
  ∃ m, pattern.search? cs = some m ∧ m.text = p.cue ++ (p.number ++ p.space ++ p.unit) ∧
    m.rest = p.after

/-- What is found with a window at its end has the number and the unit of the window in its groups. -/
theorem exists_window_of_search? {lead : List Pattern} {count unit : Nat} {cs : List Char} {m : Match}
    (hblank : (seqs lead).EndsWithBlank) (hdiff : count ≠ unit) (hcount : count ∉ (seqs lead).numbers)
    (h : (seqs (lead ++ [unitCount count unit, .boundary])).search? cs = some m) :
    ∃ p : WindowIn (seqs lead) cs,
      p.IsFirst (seqs (lead ++ [unitCount count unit, .boundary])) ∧
      m.window count unit = ⟨unitOf p.unit, (Number.readInt64? p.number).getD 1⟩ := by
  obtain ⟨before, hcs, hreads⟩ := Pattern.reads_of_search? h
  obtain ⟨cue, u, g₁, g₂, htext, hgroups, hcue, hwindow⟩ :=
    Pattern.reads_seq_iff.1 (Pattern.reads_seqs_append.1 hreads)
  have hunits : (unitCount count unit).Reads (cue.getLast?.or before.getLast?) u m.rest.head? g₂ :=
    (Pattern.reads_seq_boundary_iff.1 hwindow).1
  obtain ⟨number, space, word, rfl, hdigits, hspace, hnil, hword, rfl⟩ := reads_unitCount hunits
  rw [← List.head?_append] at hcue
  refine ⟨⟨before, cue, number, space, word, m.rest, by rw [hcs, htext], ⟨g₁, hcue⟩, hblank _ _ _ _ hcue,
    hdigits, hspace, hnil, hword⟩, ⟨m, h, htext, rfl⟩, ?_⟩
  have hnone : g₁.lookup count = none := Pattern.lookup_eq_none_of_reads hcue hcount
  have hunit : m.group? unit = some word := by
    rw [Match.group?, hgroups, List.cons_append, List.lookup_cons_self]
  have hnumber : m.group? count = if number = [] then none else some number := by
    have hskip : (count == unit) = false := by simpa using hdiff
    rw [Match.group?, hgroups, List.cons_append, List.lookup_cons, hskip]
    by_cases hempty : number = []
    · simp only [hempty, if_true, List.nil_append, hnone]
    · simp only [hempty, if_false, List.cons_append, List.lookup_cons_self]
  rw [Match.window, Match.int64?, hunit, hnumber]
  split
  · next hempty =>
      subst hempty
      rfl
  · rfl

/-- The length of a window as it is written: a number, or one where none is written. -/
def lengthWritten (number : List Char) : Nat :=
  if number = [] then 1 else Text.numberWritten number

theorem readInt64?_eq_lengthWritten_iff {number : List Char}
    (h : ∀ c ∈ number, Text.isDigit c = true) :
    (((Number.readInt64? number).getD 1).toInt = lengthWritten number ↔
      number = [] ∨ Number.IsRead number ∨ Text.numberWritten number = 1) ∧
    (((Number.readInt64? number).getD 1).toInt ≠ lengthWritten number →
      (Number.readInt64? number).getD 1 = 1) := by
  have hone : (1 : Int64).toInt = 1 := rfl
  by_cases hempty : number = []
  · subst hempty
    have hnone : Number.readInt64? [] = none := rfl
    simp [hnone, lengthWritten, hone]
  · obtain ⟨hread, hunread⟩ := Number.readInt64?_of_digits hempty h
    rw [lengthWritten, if_neg hempty]
    by_cases hisRead : Number.IsRead number
    · obtain ⟨n, hn, hvalue⟩ := hread hisRead
      simp [hn, hvalue, hisRead]
    · rw [hunread hisRead, Option.getD_none, hone]
      refine ⟨?_, fun _ => rfl⟩
      constructor
      · intro hvalue
        exact .inr (.inr (by omega))
      · rintro (hnil | hyes | hvalue)
        · exact absurd hnil hempty
        · exact absurd hyes hisRead
        · omega

end Sentence

/-! ## Sentences -/

open Sentence

/-- The window of what is said about an event. -/
def Measure.window? : Measure → Option Window
  | .performed _ _ window => some window
  | .amount _ _ window => window

/-- Where a window is looked for: anywhere, but for an amount only after it. -/
def Measure.windowText? (cs : List Char) : Measure → Option (List Char)
  | .performed _ _ _ => some cs
  | .amount _ _ _ => (amountCue.search? cs).map Match.rest

/-- How a window is looked for. -/
def Measure.windowPattern : Measure → Pattern
  | .performed _ _ _ => frequencyCue
  | .amount _ _ _ => windowCue

/-- What comes before the number of a window. -/
def Measure.windowLead : Measure → Pattern
  | .performed _ _ _ => seqs frequencyLead
  | .amount _ _ _ => seqs Sentence.windowLead

namespace Sentence

section Found

variable {cs : List Char} {name : String} {measure : Measure} {w : Window}

theorem exists_window_of_frequency? (h : frequency? cs = some (.event name measure))
    (hw : measure.window? = some w) :
    ∃ cs', measure.windowText? cs = some cs' ∧
      ∃ p : WindowIn measure.windowLead cs', p.IsFirst measure.windowPattern ∧
        w = ⟨unitOf p.unit, (Number.readInt64? p.number).getD 1⟩ := by
  obtain ⟨m, hm, he⟩ := Option.bind_eq_some_iff.1 h
  obtain ⟨count, -, he⟩ := Option.bind_eq_some_iff.1 he
  obtain ⟨-, rfl⟩ := Entity.event.inj (Option.some.inj he)
  obtain rfl := Option.some.inj hw
  rw [frequencyCue_eq] at hm
  refine ⟨cs, rfl, ?_⟩
  exact exists_window_of_search? endsWithBlank_frequencyLead (by decide) (by decide) hm

theorem exists_window_of_amount? (h : amount? cs = some (.event name measure))
    (hw : measure.window? = some w) :
    ∃ cs', measure.windowText? cs = some cs' ∧
      ∃ p : WindowIn measure.windowLead cs', p.IsFirst measure.windowPattern ∧
        w = ⟨unitOf p.unit, (Number.readInt64? p.number).getD 1⟩ := by
  obtain ⟨m, hm, he⟩ := Option.bind_eq_some_iff.1 h
  obtain ⟨base, -, he⟩ := Option.bind_eq_some_iff.1 he
  obtain ⟨-, rfl⟩ := Entity.event.inj (Option.some.inj he)
  obtain ⟨m', hm', rfl⟩ := Option.map_eq_some_iff.1 hw
  rw [windowCue_eq] at hm'
  refine ⟨m.rest, ?_, ?_⟩
  · rw [Measure.windowText?, hm, Option.map_some]
  · exact exists_window_of_search? endsWithBlank_windowLead (by decide) (by decide) hm'

end Found

/-- A purchase that a sentence mentions has its window from the text. -/
theorem exists_window_of_event_mem {text name : String} {measure : Measure} {w : Window}
    (h : Entity.event name measure ∈ entities text) (hw : measure.window? = some w) :
    ∃ cs, measure.windowText? (replaceSynonyms (Text.lower text.toList)) = some cs ∧
      ∃ p : WindowIn measure.windowLead cs, p.IsFirst measure.windowPattern ∧
        w = ⟨unitOf p.unit, (Number.readInt64? p.number).getD 1⟩ := by
  rcases purchase_of_mem_mentioned h rfl with hfound | hfound
  · exact exists_window_of_frequency? hfound hw
  · exact exists_window_of_amount? hfound hw

/-- **Windows are as long as it is written.** The window of a purchase that a sentence mentions is found
in the text, and its length is the number that is written there, or one where none is, exactly where the
number is one that is read or happens to be one; any other number makes a window of one unit. -/
theorem window_length_eq_iff {text name : String} {measure : Measure} {w : Window}
    (h : Entity.event name measure ∈ entities text) (hw : measure.window? = some w) :
    ∃ cs, measure.windowText? (replaceSynonyms (Text.lower text.toList)) = some cs ∧
      ∃ p : WindowIn measure.windowLead cs, p.IsFirst measure.windowPattern ∧
        w.unit = unitOf p.unit ∧
        (w.length.toInt = lengthWritten p.number ↔
          p.number = [] ∨ Number.IsRead p.number ∨ Text.numberWritten p.number = 1) ∧
        (w.length.toInt ≠ lengthWritten p.number → w.length = 1) := by
  obtain ⟨cs, hcs, p, hfirst, hwindow⟩ := exists_window_of_event_mem h hw
  have hunit : w.unit = unitOf p.unit := by rw [hwindow]
  have hlength : w.length = (Number.readInt64? p.number).getD 1 := by rw [hwindow]
  refine ⟨cs, hcs, p, hfirst, hunit, ?_⟩
  rw [hlength]
  exact readInt64?_eq_lengthWritten_iff p.number_digits

theorem window_length_eq_iff_days :
    Entity.event "purchase" (.performed .atLeast 2 ⟨.days, 30⟩) ∈ entities "2 times in 30 days" ∧
      (Measure.performed .atLeast 2 ⟨.days, 30⟩).window? = some ⟨.days, 30⟩ ∧
      ∃ cs, (Measure.performed .atLeast 2 ⟨.days, 30⟩).windowText?
          (replaceSynonyms (Text.lower "2 times in 30 days".toList)) = some cs ∧
        ∃ p : WindowIn (Measure.performed .atLeast 2 ⟨.days, 30⟩).windowLead cs,
          p.IsFirst (Measure.performed .atLeast 2 ⟨.days, 30⟩).windowPattern ∧
          TimeUnit.days = unitOf p.unit ∧
          ((30 : Int64).toInt = lengthWritten p.number ↔
            p.number = [] ∨ Number.IsRead p.number ∨ Text.numberWritten p.number = 1) ∧
          ((30 : Int64).toInt ≠ lengthWritten p.number → (30 : Int64) = 1) := by
  have hmem : Entity.event "purchase" (.performed .atLeast 2 ⟨.days, 30⟩)
      ∈ entities "2 times in 30 days" := by
    rw [entities_eq_mentioned (by decide +kernel) (by decide +kernel)]
    decide +kernel
  exact ⟨hmem, rfl, window_length_eq_iff hmem rfl⟩

/-- A window of many days is made one of a single day. -/
theorem window_length_ne_written :
    Entity.event "purchase" (.performed .atLeast 2 ⟨.days, 1⟩)
        ∈ entities "2x in 9999999999999999999 days" ∧
      ∃ number, "2x in 9999999999999999999 days".toList
          = "2x in ".toList ++ number ++ " days".toList ∧
        (∀ c ∈ number, Text.isDigit c = true) ∧ (1 : Int64).toInt ≠ lengthWritten number := by
  have hdigits : "9999999999999999999".toList.all Text.isDigit = true := by decide +kernel
  refine ⟨?_, "9999999999999999999".toList, by decide, List.all_eq_true.1 hdigits, by decide +kernel⟩
  rw [entities_eq_mentioned (by decide +kernel) (by decide +kernel)]
  decide +kernel

end Sentence

end Audience
