import Audience.Compiler.Basic
import Audience.Proofs.Criteria.Compiled
import Audience.Proofs.Number.Plain
import Audience.Proofs.Sentence.Synonyms
import Audience.Proofs.Stored.Dates

set_option autoImplicit false

/-! # Sentences in SQL

What a sentence mentions takes few forms (`Sentence.Mention`), and each is followed here all the way to
its formula: as criteria, brought into the vocabulary, stored as texts, and read from them again. Texts
always get there, and so does how often something was bought. Ages get there when they are ages, and an
amount when it is finite. So a sentence compiles when its ages and its amount are of that kind, and only
then (`Compiler.compileText_compiles_iff`); what the store, the deadline and the cache make of its texts
plays no part. -/

namespace Audience

open Mapping (Cache Clock)

/-! ## What sentences mention -/

namespace Sentence

/-- The column that age ranges are about. -/
def birthDate : Column :=
  ⟨.customers, "birth_date", .datetime, none⟩

/-- The column that amounts are about. -/
def totalAmount : Column :=
  ⟨.transactions, "total_amount", .number, none⟩

/-- The forms of what a sentence mentions. -/
inductive Mention : Entity → Prop
  | column (c : Column) (value : List Char) (htype : c.type = .text)
      (hlookup : Catalog.lookup c.dataset.name c.name = some c) : Mention (equals c.dataset c.name value)
  | ages (a b : Int64) (hle : a.toInt ≤ b.toInt) :
      Mention (.attribute birthDate.dataset.name birthDate.name ageBetween (.int a) (.int b))
  | frequency (qualifier : Qualifier) (count : Int64) (window : Window) :
      Mention (.event purchaseEvent (.performed qualifier count window))
  | amount (words : Option String) (x : Float) (window : Option Window) :
      Mention (.event purchaseEvent (.amount (amountOperator words) (amountValue x) window))

variable {cs : List Char} {e : Entity}

theorem mention_gender (h : gender? cs = some e) : Mention e := by
  obtain ⟨m, -, he⟩ := Option.bind_eq_some_iff.1 h
  obtain rfl := Option.some.inj he
  exact .column ⟨.customers, "gender", .text, some .gender⟩ m.text rfl (by decide)

theorem mention_place (h : place? cs = some e) : Mention e := by
  obtain ⟨name, -, rfl⟩ := Option.map_eq_some_iff.1 h
  exact .column ⟨.customers, "city", .text, some .city⟩ name rfl (by decide)

theorem toInt_min_le_toInt_max (a b : Int64) : (min a b).toInt ≤ (max a b).toInt := by
  rw [← Int64.le_iff_toInt_le]
  by_cases h : a ≤ b
  · simp [min, max, h]
  · have hba : b ≤ a := by
      rw [Int64.le_iff_toInt_le] at h ⊢
      omega
    simp [min, max, h, hba]

theorem mention_ageRange (h : ageRange? cs = some e) : Mention e := by
  obtain ⟨m, -, h⟩ := Option.bind_eq_some_iff.1 h
  obtain ⟨a, -, h⟩ := Option.bind_eq_some_iff.1 h
  obtain ⟨b, -, he⟩ := Option.bind_eq_some_iff.1 h
  obtain rfl := Option.some.inj he
  exact .ages _ _ (toInt_min_le_toInt_max a b)

theorem mention_frequency (h : frequency? cs = some e) : Mention e := by
  obtain ⟨m, -, h⟩ := Option.bind_eq_some_iff.1 h
  obtain ⟨count, -, he⟩ := Option.bind_eq_some_iff.1 h
  obtain rfl := Option.some.inj he
  exact .frequency _ _ _

theorem mention_amount (h : amount? cs = some e) : Mention e := by
  obtain ⟨m, -, h⟩ := Option.bind_eq_some_iff.1 h
  obtain ⟨base, -, he⟩ := Option.bind_eq_some_iff.1 h
  obtain rfl := Option.some.inj he
  exact .amount _ _ _

theorem mention_product (h : product? cs = some e) : Mention e := by
  obtain ⟨m, -, h⟩ := Option.bind_eq_some_iff.1 h
  obtain ⟨row, -, he⟩ := Option.bind_eq_some_iff.1 h
  obtain rfl := Option.some.inj he
  exact .column ⟨.productLines, "category", .text, some .productCategory⟩ _ rfl (by decide)

/-- A sentence mentions nothing of another form. -/
theorem mention_of_mem_entities {text : String} (h : e ∈ entities text) : Mention e := by
  obtain ⟨found, hmem, hfound⟩ := List.mem_filterMap.1 h
  simp only [List.mem_cons, List.not_mem_nil, or_false] at hmem
  rcases hmem with rfl | rfl | rfl | rfl | rfl | rfl
  · exact mention_gender hfound
  · exact mention_place hfound
  · exact mention_ageRange hfound
  · exact mention_frequency hfound
  · exact mention_amount hfound
  · exact mention_product hfound

end Sentence

/-! ## From mentions to formulas -/

/-- Whether what is mentioned can be asked for: ages have to be ages, and an amount finite. -/
def Entity.Answerable : Entity → Prop
  | .attribute _ _ _ (.int youngest) (.int oldest) => 0 ≤ youngest.toInt ∧ oldest.toInt ≤ maxAge
  | .event _ (.amount _ (.float x) _) => x.isFinite = true
  | _ => True

namespace Sentence

open Criteria (Attribute Condition Setting)

variable (s : Setting) (clock clock' : Clock) (cache cache' : Cache)

/-- What an entity makes at some time, brought into the vocabulary at another. -/
def normalCondition (e : Entity) : Condition :=
  (((Condition.ofEntity (s.during clock) e).run cache).1.normalize (s.during clock') |>.run cache').1

theorem normalCondition_attribute (dataset field operator : String) (value value2 : Scalar) :
    normalCondition s clock clock' cache cache' (.attribute dataset field operator value value2)
      = .attribute ((((Attribute.ofEntity (s.during clock) dataset field operator value value2).run
        cache).1.normalize (s.during clock') .customers).run cache').1 :=
  rfl

/-- Unless birth dates take their place, a mention of a column becomes a condition on it, with the values
that are mentioned where nothing is mapped. -/
theorem normalCondition_on {c : Column} (hc : Catalog.lookup c.dataset.name c.name = some c)
    {operator : String} {value value2 : Scalar}
    (hdates : ∀ v, (c.mapping = none → v = value) →
      (Attribute.on c operator v value2).birthDates? s.year = none) :
    ∃ v v2, normalCondition s clock clock' cache cache'
          (.attribute c.dataset.name c.name operator value value2)
        = .attribute (.on c (c.type.matchOperator operator).code v v2) ∧
      (c.mapping = none → v = value ∧ v2 = value2) := by
  obtain ⟨v, hentity, hv⟩ := Attribute.ofEntity_on (s := s.during clock) hc
    (hdates value fun _ => rfl) cache
  obtain ⟨v', v2', hnormal, hv'⟩ := Attribute.normalize_on (s := s.during clock') hc
    (hdates v hv) .customers cache'
  refine ⟨v', v2', ?_, fun h => ⟨(hv' h).1.trans (hv h), (hv' h).2⟩⟩
  rw [normalCondition_attribute, hentity, hnormal]

theorem compiles_column {c : Column} (htype : c.type = .text)
    (hlookup : Catalog.lookup c.dataset.name c.name = some c) (value : List Char) :
    (normalCondition s clock clock' cache cache' (equals c.dataset c.name value)).Compiles := by
  have hnone : ∀ v, (c.mapping = none → v = .text (.ofList value)) →
      (Attribute.on c "equals" v .null).birthDates? s.year = none := by
    intro v _
    simp [Attribute.birthDates?, Attribute.on, ageBetween]
  obtain ⟨v, v2, hnormal, -⟩ := normalCondition_on s clock clock' cache cache' hlookup hnone
  have hcode : (c.type.matchOperator "equals").code = "equals" := by
    rw [htype]
    decide
  have hop : c.type.comparison? "equals" = some .equal := by
    rw [htype]
    rfl
  rw [equals, hnormal, hcode]
  refine (Attribute.compiles_comparison_iff hlookup hop "" v v2).2 ?_
  rw [htype]
  rfl

theorem lookup_birthDate : Catalog.lookup birthDate.dataset.name birthDate.name = some birthDate := by
  decide

theorem birthDates?_on (year : Int) (a b : Int64) :
    (Attribute.on birthDate ageBetween (.int a) (.int b)).birthDates? year = birthDates? year a b := by
  simp [Attribute.birthDates?, Attribute.on, Scalar.int64?]

theorem ofEntity_ages {a b : Int64} {first last : String}
    (h : birthDates? s.year a b = some (first, last)) :
    ((Attribute.ofEntity s birthDate.dataset.name birthDate.name ageBetween (.int a) (.int b)).run
      cache).1 = .on birthDate "between" (.text first) (.text last) := by
  have hdates := birthDates?_on s.year a b
  rw [h] at hdates
  unfold Attribute.ofEntity
  unfold Attribute.on at hdates
  dsimp only
  rw [hdates]
  rfl

/-- Ages become two days, which are dates. -/
theorem compiles_of_birthDates {a b : Int64} {first last : String} (hlow : maxAge ≤ s.year)
    (hhigh : s.year ≤ 9999) (h : birthDates? s.year a b = some (first, last)) :
    (normalCondition s clock clock' cache cache'
      (.attribute birthDate.dataset.name birthDate.name ageBetween (.int a) (.int b))).Compiles := by
  have hnone : (Attribute.on birthDate "between" (.text first) (.text last)).birthDates? s.year
      = none := by
    simp [Attribute.birthDates?, Attribute.on, ageBetween]
  obtain ⟨v, v2, hnormal, hv⟩ := Attribute.normalize_on (s := s.during clock') lookup_birthDate
    hnone .customers cache'
  obtain ⟨rfl, rfl⟩ := hv rfl
  have hcode : (birthDate.type.matchOperator "between").code = "between" := by decide
  rw [normalCondition_attribute, ofEntity_ages (s.during clock) cache h, hnormal, hcode]
  exact (Attribute.compiles_between_iff lookup_birthDate rfl "" _ _).2
    (isSome_value?_birthDates hlow hhigh h)

/-- Without birth dates the youngest age is left to be compared with, and it is no date. -/
theorem not_compiles_of_birthDates {a b : Int64} (h : birthDates? s.year a b = none) :
    ¬ (normalCondition s clock clock' cache cache'
      (.attribute birthDate.dataset.name birthDate.name ageBetween (.int a) (.int b))).Compiles := by
  have hnone : ∀ v, (birthDate.mapping = none → v = .int a) →
      (Attribute.on birthDate ageBetween v (.int b)).birthDates? s.year = none := by
    intro v hv
    rw [hv rfl, birthDates?_on, h]
  obtain ⟨v, v2, hnormal, hv⟩ := normalCondition_on s clock clock' cache cache' lookup_birthDate hnone
  obtain ⟨rfl, rfl⟩ := hv rfl
  have hcode : (birthDate.type.matchOperator ageBetween).code = "equals" := by decide
  have hop : birthDate.type.comparison? "equals" = some .equal := rfl
  have hvalue : birthDate.type.value? (Scalar.display (.int a)) = none := value?_int64Text a
  rw [hnormal, hcode]
  intro hcompiles
  have hsome := (Attribute.compiles_comparison_iff lookup_birthDate hop "" _ _).1 hcompiles
  simp [hvalue] at hsome

theorem compiles_ages_iff {a b : Int64} (hle : a.toInt ≤ b.toInt) (hlow : maxAge ≤ s.year)
    (hhigh : s.year ≤ 9999) :
    (normalCondition s clock clock' cache cache'
        (.attribute birthDate.dataset.name birthDate.name ageBetween (.int a) (.int b))).Compiles ↔
      0 ≤ a.toInt ∧ b.toInt ≤ maxAge := by
  have hages : birthDates? s.year a b = none ↔ ¬ (0 ≤ a.toInt ∧ b.toInt ≤ maxAge) := by
    rw [birthDates?_eq_none_iff, min_eq_left hle, max_eq_right hle]
  cases hdates : birthDates? s.year a b with
  | none =>
      exact iff_of_false (not_compiles_of_birthDates s clock clock' cache cache' hdates) (hages.1 hdates)
  | some dates =>
      have hsome : 0 ≤ a.toInt ∧ b.toInt ≤ maxAge := by
        by_contra hnot
        simp [hages.2 hnot] at hdates
      exact iff_of_true (compiles_of_birthDates s clock clock' cache cache' hlow hhigh hdates) hsome

theorem compiles_frequency (qualifier : Qualifier) (count : Int64) (window : Window) :
    (normalCondition s clock clock' cache cache'
        (.event purchaseEvent (.performed qualifier count window))).Compiles := by
  intro a ha
  cases ha

/-- The words before an amount stand for comparisons of numbers. -/
theorem comparison_amountOperator (words : Option String) :
    (FieldType.number.matchOperator (amountOperator words)).code = amountOperator words ∧
      ∃ op, FieldType.number.comparison? (amountOperator words) = some op := by
  unfold amountOperator
  split <;> exact ⟨by decide, _, rfl⟩

theorem lookup_totalAmount :
    Catalog.lookup totalAmount.dataset.name totalAmount.name = some totalAmount := by
  decide

/-- An event that compares its amount, and has no other conditions, makes a condition on the column of
amounts. -/
theorem eventAttributes_amount {e : Criteria.Event} {operator : String}
    (hoperator : e.operator = some operator) (hvalue : e.value.isBlank = false)
    (hattributes : e.attributes = []) :
    Stored.eventAttributes e = [.on totalAmount operator e.value .null] := by
  have hcompares : e.comparesAmount = true := by
    simp [Criteria.Event.comparesAmount, hoperator, hvalue]
  rw [Stored.eventAttributes, if_pos hcompares, hoperator, hattributes]
  rfl

/-- An amount is stored as a comparison of its column, and as nothing else. -/
theorem normalCondition_amount (words : Option String) (x : Float) (window : Option Window) :
    ∃ e, normalCondition s clock clock' cache cache'
        (.event purchaseEvent (.amount (amountOperator words) (amountValue x) window)) = .event e ∧
      Stored.eventAttributes e
        = [.on totalAmount (amountOperator words) (amountValue x) .null] := by
  have hblank : (amountValue x).isBlank = false := by
    unfold amountValue
    split <;> rfl
  refine ⟨_, rfl, eventAttributes_amount ?_ hblank rfl⟩
  exact congrArg some (comparison_amountOperator words).1

theorem compiles_amount_iff (words : Option String) (x : Float) (window : Option Window) :
    (normalCondition s clock clock' cache cache'
        (.event purchaseEvent (.amount (amountOperator words) (amountValue x) window))).Compiles ↔
      Entity.Answerable (.event purchaseEvent (.amount (amountOperator words) (amountValue x) window)) := by
  obtain ⟨-, op, hop⟩ := comparison_amountOperator words
  obtain ⟨e, hevent, hattributes⟩ := normalCondition_amount s clock clock' cache cache' words x window
  rw [hevent, Condition.Compiles, hattributes, List.forall_mem_singleton,
    Attribute.compiles_comparison_iff lookup_totalAmount hop]
  change (Scalar.ofNumberText? (amountValue x).display).isSome = true ↔ _
  unfold amountValue
  split
  · rw [Scalar.display, Scalar.ofNumberText?_int64Text]
    exact iff_of_true rfl trivial
  · exact Scalar.isSome_ofNumberText?_display_iff x

/-- What is mentioned compiles when it can be asked for, at any time and whatever the caches hold. -/
theorem Mention.compiles_iff {e : Entity} (h : Mention e) (hlow : maxAge ≤ s.year)
    (hhigh : s.year ≤ 9999) : (normalCondition s clock clock' cache cache' e).Compiles ↔ e.Answerable := by
  cases h with
  | column c value htype hlookup =>
      exact iff_of_true (compiles_column s clock clock' cache cache' htype hlookup value) trivial
  | ages a b hle => exact compiles_ages_iff s clock clock' cache cache' hle hlow hhigh
  | frequency qualifier count window =>
      exact iff_of_true (compiles_frequency s clock clock' cache cache' qualifier count window) trivial
  | amount words x window => exact compiles_amount_iff s clock clock' cache cache' words x window

end Sentence

/-! ## Sentences -/

namespace Compiler

/-- What is mentioned compiles as one when each mention does, at any time and whatever the caches hold. -/
theorem exists_compileSql_iff (c : Compiler) {es : List Entity} {q : Entity → Prop}
    (h : ∀ e ∈ es, ∀ clock clock' cache cache',
      (Sentence.normalCondition c.setting clock clock' cache cache' e).Compiles ↔ q e) (cache : Cache) :
    (∃ p, c.compileSql
      ((do c.rest.compileTree (← c.first.criteriaOf es) : StateM Cache Stored.Tree).run cache).1
      = .ok p) ↔ ∀ e ∈ es, q e := by
  -- The criteria have no groups, and their conditions come from two passes over what is mentioned.
  have htree := Criteria.Tree.exists_predicate_iff
    ((c.rest.normalize ((c.first.criteriaOf es).run cache).1).run
      ((c.first.criteriaOf es).run cache).2).1
    c.options.dialect
  have hgroups : ∀ g ∈ ([] : List Criteria.Group), ∀ c ∈ g.conditions, c.Compiles := by
    simp
  have hpasses := Criteria.forall_mem_each_each_iff (f := Criteria.Condition.ofEntity)
    (g := Criteria.Condition.normalize) (s := c.first.setting) (u := c.rest.setting.first)
    (p := Criteria.Condition.Compiles) h cache ((c.first.criteriaOf es).run cache).2
  exact (htree.trans (and_iff_left hgroups)).trans hpasses

/-- **Which sentences compile**: with a year of four digits, a sentence compiles all the way to SQL when
every age range that it mentions is one of ages and the amount that it mentions is finite, and only then.
The store, the deadline, the dialect and the cache play no part. -/
theorem compileText_compiles_iff (c : Compiler) (hlow : 1000 ≤ c.options.year)
    (hhigh : c.options.year ≤ 9999) (text : String) (cache : Cache) :
    (∃ p, c.compileSql ((c.compileText text).run cache).1 = .ok p) ↔
      ∀ e ∈ Sentence.entities text, e.Answerable := by
  have hages : maxAge ≤ c.setting.year := le_trans (by decide) hlow
  refine c.exists_compileSql_iff (fun e he clock clock' cache cache' => ?_) cache
  exact (Sentence.mention_of_mem_entities he).compiles_iff c.setting clock clock' cache cache' hages
    hhigh

/-- A compiler without a store. -/
def standalone : Compiler :=
  ⟨.standalone, ⟨0.8, 4096, 8, .none, .postgres, 2025⟩⟩

theorem compileText_compiles_ages :
    1000 ≤ standalone.options.year ∧ standalone.options.year ≤ 9999 ∧
      ∃ p, standalone.compileSql ((standalone.compileText "age 0-150").run .standard).1 = .ok p := by
  have hentities : Sentence.entities "age 0-150"
      = [.attribute "customers" "birth_date" ageBetween (.int 0) (.int 150)] := by
    rw [Sentence.entities_eq_mentioned (by decide +kernel) (by decide +kernel)]
    decide +kernel
  refine ⟨by decide, by decide,
    (compileText_compiles_iff standalone (by decide) (by decide) "age 0-150" .standard).2 ?_⟩
  rw [hentities, List.forall_mem_singleton]
  change 0 ≤ (0 : Int64).toInt ∧ (150 : Int64).toInt ≤ maxAge
  decide

/-- One year more than the greatest age, and the range is left with a number for a date. -/
theorem not_compileText_compiles_ages :
    1000 ≤ standalone.options.year ∧ standalone.options.year ≤ 9999 ∧
      ¬ ∃ p, standalone.compileSql ((standalone.compileText "age 0-151").run .standard).1 = .ok p := by
  have hentities : Sentence.entities "age 0-151"
      = [.attribute Sentence.birthDate.dataset.name Sentence.birthDate.name ageBetween (.int 0)
        (.int 151)] := by
    rw [Sentence.entities_eq_mentioned (by decide +kernel) (by decide +kernel)]
    decide +kernel
  refine ⟨by decide, by decide, ?_⟩
  rw [compileText, hentities, standalone.exists_compileSql_iff (q := fun _ => False)]
  · simp
  · intro e he clock clock' cache cache'
    obtain rfl := List.mem_singleton.1 he
    exact iff_false_intro (Sentence.not_compiles_of_birthDates _ clock clock' cache cache' (by decide))

end Compiler

end Audience
