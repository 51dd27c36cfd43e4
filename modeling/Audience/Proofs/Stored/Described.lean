import Audience.Explain
import Audience.Proofs.Number.Integer
import Audience.Proofs.Stored.Compiled

set_option autoImplicit false

/-! # Events in words and in SQL

The words for an event and its formula are made apart from each other, each from what is stored. The
words name a stretch of time as soon as a unit and a length are stored, while the formula is restricted
to one only if the unit is recognised and the length is positive; and the words give the count that is
stored, while the formula asks for at least one transaction. So the two say the same exactly where
those guards change nothing (`Stored.Tree.described_iff`).

What words say is read off the whole description: the words for one window never stand for another
(`Stored.Event.NamesWindow.unique`), nor those for one count (`Stored.Event.NamesCount.unique`). -/

namespace Audience

/-! ## What a formula asks for -/

/-- The window that the formula of an event is restricted to. -/
def Formula.window? : Formula → Option Window
  | .exists _ scope _ => scope.window
  | .eventDate _ _ _ w => some w
  | _ => none

/-- The least number of transactions that the formula of an event asks for. -/
def Formula.minCount? : Formula → Option Int64
  | .exists _ scope _ => scope.minCount
  | _ => none

/-- The tokens that ask for at least so many transactions. -/
def countTokens (n : Int64) : List Token :=
  [.text " GROUP BY t.customer_id HAVING COUNT(*) >= ", .value (.int n)]

/-- The least number is bound as the value of its comparison. -/
theorem Formula.countTokens_isInfix {f : Formula} {n : Int64} (h : f.minCount? = some n)
    (d : Dialect) : countTokens n <:+: f.tokens d := by
  match f, h with
  | .exists negated scope filters, h =>
      have hcount : scope.minCount = some n := h
      have hclosing : [Piece.text " GROUP BY t.customer_id HAVING COUNT(*) >= ", .value (.int n)]
          <:+ scope.closing := by
        rw [Scope.closing, hcount]
        exact List.suffix_append _ _
      have hlayout : scope.closing <:+: (Formula.exists negated scope filters).layout false := by
        refine ⟨.text (notIf negated ++ "EXISTS (SELECT 1") :: scope.opening
          ++ layoutFilters filters, [.text ")"], ?_⟩
        simp only [Formula.layout]
      have htokens := (hclosing.isInfix.trans hlayout).flatMap (Piece.tokens d)
      exact htokens

namespace Stored.Event

/-- Whether an event counts what is performed, and at least so often. -/
def AsksAtLeast (e : Event) : Prop :=
  (Term.parse e.type : EventType) = .performed ∧ (Term.parse e.qualifier : Qualifier) = .atLeast

instance (e : Event) : Decidable e.AsksAtLeast :=
  inferInstanceAs (Decidable (_ ∧ _))

theorem window?_formula {e : Event} {f : Formula} (h : e.formula = .ok f) :
    f.window? = e.window? := by
  obtain ⟨found, -, rfl⟩ := formula_eq_ok_iff.1 h
  split
  · rfl
  · rfl
  · cases e.window? <;> rfl
  · cases e.window? <;> rfl

section Filters

variable {filters : List Formula} {w : Window} (hfilters : .windowStart w ∉ layoutFilters filters)
include hfilters

theorem windowStart_mem_exists_iff (negated : Bool) (scope : Scope) :
    .windowStart w ∈ (Formula.exists negated scope filters).layout false ↔ scope.window = some w := by
  obtain ⟨joins, window, minCount⟩ := scope
  cases window <;> cases minCount <;>
    simp [Formula.layout, Scope.opening, Scope.closing, hfilters, eq_comm]

theorem windowStart_mem_extremeFormula_iff (extreme : Extreme) (joins : List Join) (o : Option Window) :
    .windowStart w ∈ (extremeFormula extreme joins filters o).layout false ↔ o = some w := by
  cases o with
  | none => exact windowStart_mem_exists_iff hfilters false ⟨joins, none, none⟩
  | some w' =>
      simp [extremeFormula, Formula.layout, Scope.opening, Scope.closing, hfilters, eq_comm]

end Filters

/-- Of all windows, the line of the formula is held to that one. -/
theorem windowStart_mem_layout_iff {e : Event} {f : Formula} (h : e.formula = .ok f) (w : Window) :
    .windowStart w ∈ f.layout false ↔ f.window? = some w := by
  rw [window?_formula h]
  obtain ⟨found, hfound, rfl⟩ := formula_eq_ok_iff.1 h
  have hfilters := windowStart_notMem_layoutFilters hfound w
  split
  · exact windowStart_mem_exists_iff hfilters false _
  · exact windowStart_mem_exists_iff hfilters true _
  · exact windowStart_mem_extremeFormula_iff hfilters .first _ _
  · exact windowStart_mem_extremeFormula_iff hfilters .last _ _

theorem minCount?_formula {e : Event} {f : Formula} (h : e.formula = .ok f) (hat : e.AsksAtLeast) :
    f.minCount? = some (max e.count 1) := by
  obtain ⟨found, -, rfl⟩ := formula_eq_ok_iff.1 h
  rw [hat.1]
  rfl

/-! ## What words say -/

/-- The words for something that is performed at least so many times. -/
def atLeastWords (name : String) (n : Int64) : String :=
  let times := if n = 1 then "time" else "times"
  s!"{name} performed at least {Number.int64Text n} {times}"

/-- Whether the description of an event names a window, or none: between what has happened and the
conditions on columns stand the words for the length of the window, in a unit that is recognised as its
own. -/
def NamesWindow (e : Event) : Option Window → Prop
  | none => e.describe = e.happening ++ e.attributeWords
  | some w => ∃ unit, Term.parse? unit = some w.unit ∧
      e.describe = e.happening ++ lastWords unit w.length ++ e.attributeWords

/-- Whether the description of an event gives a count. -/
def NamesCount (e : Event) (n : Int64) : Prop :=
  e.describe = atLeastWords e.name n ++ e.windowWords ++ e.attributeWords

theorem happening_of_asksAtLeast {e : Event} (h : e.AsksAtLeast) :
    e.happening = atLeastWords e.name e.count := by
  have hwords : spaced (Term.code Qualifier.atLeast) = "at least" := by decide
  have hsplit : " performed at least " = " performed " ++ "at least" ++ " " := by decide
  simp only [happening, h.1, h.2, hwords, atLeastWords, hsplit, toString, String.append_assoc]

/-! ### Different numbers, different words -/

/-- A number ends at the first space after it. -/
theorem intText_append_inj {m n : Int} {as bs : List Char}
    (h : Number.intText m ++ ' ' :: as = Number.intText n ++ ' ' :: bs) : m = n ∧ as = bs := by
  have htake : ∀ (k : Int) (cs : List Char),
      (Number.intText k ++ ' ' :: cs).takeWhile (! Text.isBlank ·) = Number.intText k := by
    intro k cs
    rw [List.takeWhile_append_of_pos fun c hc => by simp [Number.isBlank_of_mem_intText hc],
      List.takeWhile_cons_of_neg (by simp [Text.isBlank_space]), List.append_nil]
  have htext : Number.intText m = Number.intText n := by rw [← htake m as, h, htake]
  have hread : some m = some n := by
    rw [← Number.readInt?_intText m, htext, Number.readInt?_intText]
  refine ⟨Option.some.inj hread, ?_⟩
  rw [htext, List.append_cancel_left_eq] at h
  exact (List.cons.inj h).2

theorem atLeastWords_injective {name : String} {m n : Int64}
    (h : atLeastWords name m = atLeastWords name n) : m = n := by
  have hlists := congrArg String.toList h
  simp only [atLeastWords, toString, String.toList_append, List.append_assoc,
    List.append_cancel_left_eq, Number.int64Text, String.toList_ofList] at hlists
  exact Int64.toInt_inj.1 (intText_append_inj hlists).1

/-! ### Different units, different words -/

/-- The first letter of a text, lowered. -/
def initial? (s : String) : Option Char :=
  ((s.toList.dropWhile Text.isBlank).head?).map Text.asciiLower

theorem initial?_of_parse? {raw : String} {u : TimeUnit} (h : Term.parse? raw = some u) :
    initial? raw = (Term.code u).toList.head? := by
  have hsame : Text.sameIgnoringCase (Term.code u) (Text.trimmed raw) = true :=
    List.find?_some (p := fun t => Text.sameIgnoringCase (Term.code t) (Text.trimmed raw)) h
  have hlower : (Text.trim raw.toList).map Text.asciiLower
      = (Term.code u).toList.map Text.asciiLower := by
    simp only [Text.sameIgnoringCase, Text.trimmed, String.toList_ofList, beq_iff_eq] at hsame
    exact hsame.symm
  have hcode : (Term.code u).toList.map Text.asciiLower = (Term.code u).toList := by
    cases u <;> decide
  rw [hcode] at hlower
  cases htrim : Text.trim raw.toList with
  | nil =>
      have hne : (Term.code u).toList ≠ [] := by cases u <;> decide
      rw [htrim] at hlower
      exact absurd hlower.symm hne
  | cons c ds =>
      rw [initial?, Text.head?_dropWhile_of_trim htrim, ← hlower, htrim]
      rfl

/-- A unit for one starts with the same letter. -/
theorem initial?_singular {raw : String} (h : initial? raw ≠ some 's') :
    initial? (singular raw) = initial? raw := by
  unfold singular
  split
  · next rest hrest =>
      have hraw : raw.toList = rest.reverse ++ ['s'] := by
        rw [← List.reverse_reverse raw.toList, hrest, List.reverse_cons]
      have hne : (rest.reverse.dropWhile Text.isBlank).isEmpty = false := by
        by_contra hempty
        refine h ?_
        rw [initial?, hraw, List.dropWhile_append, if_pos (by simpa using hempty)]
        decide
      obtain ⟨c, cs, hcs⟩ := List.exists_cons_of_ne_nil (List.isEmpty_eq_false_iff.1 hne)
      rw [initial?, initial?, hraw, List.dropWhile_append, if_neg (by simp [hcs]),
        String.toList_ofList, hcs]
      rfl
  · rfl

/-- The words for a stretch of time, with the number between the same words and a space. -/
theorem toList_lastWords (unit : String) (n : Int64) :
    (lastWords unit n).toList = " in the last ".toList
      ++ (Number.intText n.toInt ++ ' ' :: (if n = 1 then singular unit else unit).toList) := by
  have hwords : lastWords unit n
      = " in the last " ++ Number.int64Text n ++ " " ++ if n = 1 then singular unit else unit := rfl
  simp only [hwords, String.toList_append, List.append_assoc, Number.int64Text, String.toList_ofList]
  rfl

/-- The words for a stretch of time stand for one window only. -/
theorem lastWords_inj {unit unit' : String} {w w' : Window}
    (hunit : Term.parse? unit = some w.unit) (hunit' : Term.parse? unit' = some w'.unit)
    (h : lastWords unit w.length = lastWords unit' w'.length) : w = w' := by
  have hlists := congrArg String.toList h
  rw [toList_lastWords, toList_lastWords, List.append_cancel_left_eq] at hlists
  obtain ⟨hint, hword⟩ := intText_append_inj hlists
  have hlength : w.length = w'.length := Int64.toInt_inj.1 hint
  have hwords : (if w.length = 1 then singular unit else unit)
      = if w.length = 1 then singular unit' else unit' := by
    rw [hlength] at hword ⊢
    exact String.toList_inj.1 hword
  have hinitial : ∀ {raw : String} {u : TimeUnit}, Term.parse? raw = some u →
      initial? (if w.length = 1 then singular raw else raw) = (Term.code u).toList.head? := by
    intro raw u hraw
    have hfirst := initial?_of_parse? hraw
    split
    · rw [initial?_singular (by rw [hfirst]; cases u <;> decide), hfirst]
    · exact hfirst
  have hheads : (Term.code w.unit).toList.head? = (Term.code w'.unit).toList.head? := by
    rw [← hinitial hunit, ← hinitial hunit', hwords]
  have hsame : ∀ u u' : TimeUnit,
      (Term.code u).toList.head? = (Term.code u').toList.head? → u = u' := by
    intro u u'
    cases u <;> cases u' <;> decide
  cases w
  cases w'
  simp only [Window.mk.injEq]
  exact ⟨hsame _ _ hheads, hlength⟩

theorem lastWords_ne (unit : String) (n : Int64) : lastWords unit n ≠ "" := by
  intro h
  have hlists := congrArg String.toList h
  rw [toList_lastWords] at hlists
  simp at hlists

/-- A description names one window at most. -/
theorem NamesWindow.unique {e : Event} {o o' : Option Window} (h : e.NamesWindow o)
    (h' : e.NamesWindow o') : o = o' := by
  -- What has happened and the conditions are the same on both sides.
  have hcancel : ∀ {a b : String}, e.describe = e.happening ++ a ++ e.attributeWords →
      e.describe = e.happening ++ b ++ e.attributeWords → a = b := by
    intro a b ha hb
    rw [ha, String.append_left_inj, String.append_right_inj] at hb
    exact hb
  have hnone : e.NamesWindow none → e.describe = e.happening ++ "" ++ e.attributeWords := by
    intro hnone
    rw [String.append_empty]
    exact hnone
  cases o with
  | none =>
      cases o' with
      | none => rfl
      | some w' =>
          obtain ⟨unit', -, hwords'⟩ := h'
          exact absurd (hcancel hwords' (hnone h)) (lastWords_ne _ _)
  | some w =>
      obtain ⟨unit, hunit, hwords⟩ := h
      cases o' with
      | none => exact absurd (hcancel hwords (hnone h')) (lastWords_ne _ _)
      | some w' =>
          obtain ⟨unit', hunit', hwords'⟩ := h'
          rw [lastWords_inj hunit hunit' (hcancel hwords hwords')]

/-- A description gives one count at most. -/
theorem NamesCount.unique {e : Event} {m n : Int64} (h : e.NamesCount m) (h' : e.NamesCount n) :
    m = n := by
  rw [NamesCount, h, String.append_left_inj, String.append_left_inj] at h'
  exact atLeastWords_injective h'

/-! ## Where words and formula agree -/

theorem namesWindow_none_iff (e : Event) : e.NamesWindow none ↔ e.windowWords = "" := by
  rw [NamesWindow, describe, String.append_left_inj]
  constructor
  · intro h
    have hempty : e.happening ++ e.windowWords = e.happening ++ "" := by rw [h, String.append_empty]
    rwa [String.append_right_inj] at hempty
  · intro h
    rw [h, String.append_empty]

/-- The window of the formula is named where the guards on unit and length change nothing. -/
theorem namesWindow_iff (e : Event) :
    e.NamesWindow e.window? ↔ ∀ unit length, e.unit = some unit → e.length = some length →
      (Term.parse? unit : Option TimeUnit).isSome ∧ 0 < length := by
  cases hunit : e.unit with
  | none =>
      have hwindow : e.window? = none := by simp [window?, hunit]
      simp [hwindow, namesWindow_none_iff, windowWords, hunit]
  | some unit =>
      cases hlength : e.length with
      | none =>
          have hwindow : e.window? = none := by simp [window?, hunit, hlength]
          simp [hwindow, namesWindow_none_iff, windowWords, hunit, hlength]
      | some length =>
          have hwords : e.windowWords = lastWords unit length := by
            simp [windowWords, hunit, hlength]
          have hguard : (∀ unit' length', some unit = some unit' → some length = some length' →
              (Term.parse? unit' : Option TimeUnit).isSome ∧ 0 < length') ↔
              (Term.parse? unit : Option TimeUnit).isSome ∧ 0 < length := by
            simp
          rw [hguard]
          by_cases hgood : (Term.parse? unit : Option TimeUnit).isSome ∧ 0 < length
          · obtain ⟨hparse, hpos⟩ := hgood
            obtain ⟨u, hu⟩ := Option.isSome_iff_exists.1 hparse
            have hwindow : e.window? = some ⟨u, length⟩ := by
              simp [window?, hunit, hlength, hu, hpos]
            have hnames : e.NamesWindow (some ⟨u, length⟩) :=
              ⟨unit, hu, by rw [describe, hwords]⟩
            simp [hwindow, hnames, hparse, hpos]
          · have hwindow : e.window? = none := by
              cases hu : (Term.parse? unit : Option TimeUnit) with
              | none => simp [window?, hunit, hu]
              | some u =>
                  have hpos : ¬ 0 < length := fun hpos => hgood ⟨by simp [hu], hpos⟩
                  simp [window?, hunit, hlength, hpos]
            rw [hwindow, namesWindow_none_iff, hwords]
            exact iff_of_false (lastWords_ne unit length) hgood

theorem max_one_eq_iff (n : Int64) : max n 1 = n ↔ 1 ≤ n := by
  refine ⟨fun h => h ▸ one_le_max_one n, fun h => ?_⟩
  have hmax : max n 1 = if n ≤ 1 then 1 else n := rfl
  rw [hmax]
  split
  · next hle => exact Int64.le_antisymm h hle
  · rfl

/-- The words give the count that is stored. -/
theorem namesCount_iff {e : Event} (h : e.AsksAtLeast) (n : Int64) :
    e.NamesCount n ↔ e.count = n := by
  have hstored : e.NamesCount e.count := by
    rw [NamesCount, describe, happening_of_asksAtLeast h]
  constructor
  · exact hstored.unique
  · rintro rfl
    exact hstored

end Stored.Event

/-- For every event of a segment that compiles, words and formula agree on the window exactly when
there is no unit or no length, or a recognised unit and a positive length; and for what is performed at
least so often they agree on the count exactly when that is at least one. -/
theorem Stored.Tree.described_iff {t : Stored.Tree} {d : Dialect} {p : Predicate}
    (h : t.predicate d = .ok p) {e : Stored.Event} (he : .event e ∈ t.members) :
    ∃ f, e.formula = .ok f ∧ f.tokens d <:+: p.formula.tokens d ∧
      (∀ w, .windowStart w ∈ f.layout false ↔ f.window? = some w) ∧
      (e.NamesWindow f.window? ↔ ∀ unit length, e.unit = some unit → e.length = some length →
        (Term.parse? unit : Option TimeUnit).isSome ∧ 0 < length) ∧
      (e.AsksAtLeast → ∃ n, f.minCount? = some n ∧ countTokens n <:+: f.tokens d ∧
        (e.NamesCount n ↔ 1 ≤ e.count)) := by
  obtain ⟨f, hef, htokens⟩ := t.tokens_isInfix h he
  refine ⟨f, hef, htokens, Stored.Event.windowStart_mem_layout_iff hef, ?_, fun hat => ?_⟩
  · rw [Stored.Event.window?_formula hef]
    exact e.namesWindow_iff
  · have hcount := Stored.Event.minCount?_formula hef hat
    refine ⟨max e.count 1, hcount, f.countTokens_isInfix hcount d, ?_⟩
    rw [Stored.Event.namesCount_iff hat, eq_comm]
    exact Stored.Event.max_one_eq_iff e.count

/-- At least two purchases in the last three months, in a group of its own. -/
def Stored.Tree.regulars : Stored.Tree :=
  ⟨1, .and, [], [⟨1, .or, [.event ⟨1, "purchase", "performed", "at_least", 2, some "months", some 3, [],
    .and⟩]⟩]⟩

theorem Stored.Tree.described_iff_regulars :
    ∃ p e f, Stored.Tree.regulars.predicate .sqlite = .ok p ∧
      .event e ∈ Stored.Tree.regulars.members ∧ e.formula = .ok f ∧
      e.NamesWindow f.window? ∧ e.AsksAtLeast ∧ ∃ n, f.minCount? = some n ∧ e.NamesCount n := by
  obtain ⟨p, hp⟩ : ∃ p, Stored.Tree.regulars.predicate .sqlite = .ok p := ⟨_, rfl⟩
  have he : .event ⟨1, "purchase", "performed", "at_least", 2, some "months", some 3, [], .and⟩
      ∈ Stored.Tree.regulars.members := by decide
  obtain ⟨f, hf, -, -, hwindow, hcount⟩ := Stored.Tree.described_iff hp he
  have hat : Stored.Event.AsksAtLeast
      ⟨1, "purchase", "performed", "at_least", 2, some "months", some 3, [], .and⟩ := by decide
  obtain ⟨n, hn, -, hnames⟩ := hcount hat
  refine ⟨p, _, f, hp, he, hf, hwindow.2 ?_, hat, n, hn, hnames.2 (by decide)⟩
  rintro _ _ ⟨rfl⟩ ⟨rfl⟩
  decide

/-- A purchase that is stored with a length and a count of nought. -/
def Stored.Event.nought : Stored.Event :=
  ⟨1, "purchase", "performed", "at_least", 0, some "months", some 0, [], .and⟩

/-- The words say "at least 0 times in the last 0 months", while one transaction at any time is asked
for. -/
theorem Stored.Tree.not_described_nought :
    ∃ (t : Stored.Tree) (p : Predicate) (f : Formula), t.predicate .postgres = .ok p ∧
      .event Stored.Event.nought ∈ t.members ∧ Stored.Event.nought.formula = .ok f ∧
      ¬ Stored.Event.nought.NamesWindow f.window? ∧ Stored.Event.nought.AsksAtLeast ∧
      f.minCount? = some 1 ∧ ¬ Stored.Event.nought.NamesCount 1 := by
  have hat : Stored.Event.nought.AsksAtLeast := by decide
  refine ⟨⟨1, .and, [.event Stored.Event.nought], []⟩, _, _, rfl, by decide, rfl, ?_, hat, rfl, ?_⟩
  · change ¬ Stored.Event.nought.NamesWindow Stored.Event.nought.window?
    rw [Stored.Event.namesWindow_iff]
    intro h
    exact absurd (h "months" 0 rfl rfl).2 (by decide)
  · rw [Stored.Event.namesCount_iff hat]
    decide

end Audience
