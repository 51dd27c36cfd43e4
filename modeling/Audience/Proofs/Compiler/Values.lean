import Audience.Proofs.Compiler.Sentences
import Audience.Proofs.Criteria.Members
import Audience.Proofs.Criteria.Registered

set_option autoImplicit false

/-! # Values on their way to the database

The value of a condition is stored as a text and read again by the type of its column before it is bound.
Integers come back as they were, down to the least and up to the greatest of them, and texts are bound as
they stand or within a pattern of theirs (`Criteria.Attribute.Sends`). Compiling binds these values and no
others, condition by condition in order (`Compiler.values_unchanged`). -/

namespace Audience

open Mapping (Cache)

/-! ## Operators of texts -/

namespace FieldType

/-- The operators that compare texts as they are. -/
theorem comparison?_text : ∀ operator ∈ ["equals", "not_equals"],
    text.Registers operator ∧ (text.comparison? operator).isSome = true := by
  decide

/-- The operators that look for a text anywhere. -/
theorem test?_containing {operator : String} (h : operator ∈ ["contains", "not_contains"]) :
    text.Registers operator ∧
      ∃ negated, text.test? operator = some (.pattern negated Like.containing) := by
  rcases List.mem_pair.1 h with rfl | rfl
  · exact ⟨by decide, false, rfl⟩
  · exact ⟨by decide, true, rfl⟩

end FieldType

namespace Criteria

/-! ## Columns that conditions name -/

/-- A condition names a column of the catalog. It may leave out the dataset where the column is the first of
its name. -/
structure Attribute.Names (a : Attribute) (c : Column) : Prop where
  mem : c ∈ Catalog.columns
  field : a.field = some c.name
  dataset : a.dataset = some c.dataset.name ∨ a.dataset = none ∧ Catalog.locate c.name = some c

section Names

variable {a a' : Attribute} {c : Column} {operator : String} {s : Setting} {fallback : Dataset}

theorem Attribute.Names.lookup_eq (h : a.Names c) : Catalog.lookup c.dataset.name c.name = some c := by
  have hcolumns : ∀ c ∈ Catalog.columns, Catalog.lookup c.dataset.name c.name = some c := by
    decide
  exact hcolumns c h.mem

/-- A dataset that is left out is filled in. -/
theorem Attribute.Names.normalize_eq (h : a.Names c) (hoperator : a.operator = some operator) :
    a.normalize s fallback = (on c operator a.value a.value2).normalize s fallback := by
  have hdataset : a.datasetOr fallback = c.dataset.name := by
    rcases h.dataset with hgiven | ⟨hnone, hlocate⟩
    · rw [datasetOr, hgiven, Option.getD_some]
    · rw [datasetOr, hnone, h.field, Option.getD_some, hlocate]
      rfl
  have hdates : a.birthDates? s.year = (on c operator a.value a.value2).birthDates? s.year := by
    rw [birthDates?, hoperator]
    rfl
  unfold normalize
  rw [hdataset, hdates, h.field, hoperator]
  rfl

/-- A condition keeps an operator that is registered for its column, and its values if nothing is mapped. -/
theorem Attribute.Names.eq_on (h : a.Names c) (hmapping : c.mapping = none)
    (hoperator : a.operator = some operator) (hregisters : c.type.Registers operator)
    (hbecomes : a.Becomes s fallback a') : a' = on c operator a.value a.value2 := by
  obtain ⟨clock, cache, rfl⟩ := hbecomes
  obtain ⟨op, hop, rfl⟩ := hregisters
  have hdates : (on c op.code a.value a.value2).birthDates? s.year = none := by
    have hages : op.code ≠ ageBetween := by
      rw [← FieldType.matchOperator_code hop]
      exact c.type.matchOperator_ne_ageBetween op.code
    simp [birthDates?, on, hages]
  obtain ⟨v, v2, hnormal, hvalues⟩ := normalize_on (s := s.during clock) h.lookup_eq hdates fallback cache
  obtain ⟨rfl, rfl⟩ := hvalues hmapping
  rw [h.normalize_eq hoperator, hnormal, FieldType.matchOperator_code hop]

end Names

/-! ## What conditions send -/

/-- What a condition on one column sends to the database: the integers or the text that it was given. Numbers
are compared with one integer, or with two where a range is asked for. Texts of columns without mappings are
sent as they are, or as the pattern that the operator makes of what stands for itself in a pattern. -/
inductive Attribute.Sends (a : Attribute) : List Scalar → Prop
  | number {c : Column} {operator : String} {v : Int64} (hc : a.Names c) (htype : c.type = .number)
      (hregisters : FieldType.number.Registers operator)
      (hone : operator ∉ ["between", "is_null", "is_not_null"])
      (hoperator : a.operator = some operator) (hvalue : a.value = .int v) : Sends a [.int v]
  | range {c : Column} {v v2 : Int64} (hc : a.Names c) (htype : c.type = .number)
      (hoperator : a.operator = some "between") (hvalue : a.value = .int v)
      (hvalue2 : a.value2 = .int v2) : Sends a [.int v, .int v2]
  | text {c : Column} {operator text : String} (hc : a.Names c) (htype : c.type = .text)
      (hmapping : c.mapping = none) (hequal : operator ∈ ["equals", "not_equals"])
      (hoperator : a.operator = some operator) (hvalue : a.value = .text text) :
      Sends a [.text text]
  | containing {c : Column} {operator text : String} (hc : a.Names c) (htype : c.type = .text)
      (hmapping : c.mapping = none) (hcontains : operator ∈ ["contains", "not_contains"])
      (hoperator : a.operator = some operator) (hvalue : a.value = .text text) :
      Sends a [.text ("%" ++ Like.escape text ++ "%")]
  | starting {c : Column} {text : String} (hc : a.Names c) (htype : c.type = .text)
      (hmapping : c.mapping = none) (hoperator : a.operator = some "starts_with")
      (hvalue : a.value = .text text) : Sends a [.text (Like.escape text ++ "%")]
  | ending {c : Column} {text : String} (hc : a.Names c) (htype : c.type = .text)
      (hmapping : c.mapping = none) (hoperator : a.operator = some "ends_with")
      (hvalue : a.value = .text text) : Sends a [.text ("%" ++ Like.escape text)]

/-! ## What formulas bind -/

section Bindings

variable {a a' : Attribute} {c : Column} {operator : String} {s : Setting} {fallback : Dataset}

section Named

variable (hc : a.Names c) (hmapping : c.mapping = none) (hoperator : a.operator = some operator)
  (hregisters : c.type.Registers operator) (hbecomes : a.Becomes s fallback a') (other : String)
include hc hmapping hoperator hregisters hbecomes

/-- A condition without mappings is tested with the values that it was given. -/
theorem Attribute.Names.bindings_formula {test : ColumnTest} (htest : c.type.test? operator = some test)
    {f : Formula} (hf : test.formula c a.value.display a.value2.display = .ok f) :
    ∃ g, a'.formula other = .ok g ∧ g.bindings = f.bindings := by
  rw [hc.eq_on hmapping hoperator hregisters hbecomes]
  exact bindings_formula_on htest hc.lookup_eq hf other

theorem Attribute.Names.bindings_comparison {op : Comparison}
    (hop : c.type.comparison? operator = some op) {v : Scalar}
    (hvalue : c.value a.value.display = .ok v) :
    ∃ g, a'.formula other = .ok g ∧ g.bindings = [.value v] :=
  hc.bindings_formula hmapping hoperator hregisters hbecomes other (FieldType.test?_of_comparison hop)
    (ColumnTest.formula_comparison op hvalue)

theorem Attribute.Names.bindings_pattern {negated : Bool} {pattern : String → String}
    (htest : c.type.test? operator = some (.pattern negated pattern)) {text : String}
    (hvalue : a.value = .text text) :
    ∃ g, a'.formula other = .ok g ∧ g.bindings = [.value (.text (pattern text))] := by
  have hbound := hc.bindings_formula hmapping hoperator hregisters hbecomes other htest rfl
  rwa [hvalue] at hbound

end Named

/-- What a condition sends is what its formula binds. -/
theorem Attribute.Sends.bindings_formula {sent : List Scalar} (h : a.Sends sent)
    (hbecomes : a.Becomes s fallback a') (other : String) :
    ∃ g, a'.formula other = .ok g ∧ g.bindings = sent.map .value := by
  have hnumbers : ∀ c ∈ Catalog.columns, c.type = .number → c.mapping = none := by decide
  cases h with
  | @number c operator v hc htype hregisters hone hoperator hvalue =>
      obtain ⟨op, hop, rfl⟩ := hregisters
      obtain ⟨comparison, hcomparison⟩ :=
        Option.isSome_iff_exists.1 (FieldType.comparison?_number op hop hone)
      rw [← htype] at hop hcomparison
      refine hc.bindings_comparison (hnumbers c hc.mem htype) hoperator ⟨op, hop, rfl⟩ hbecomes other
        hcomparison ?_
      rw [hvalue, Column.value_int htype]
  | @range c v v2 hc htype hoperator hvalue hvalue2 =>
      have hranges : c.type.hasRanges = true := by
        rw [htype]
        rfl
      refine hc.bindings_formula (hnumbers c hc.mem htype) hoperator
        (c.type.registers_between_iff.2 hranges) hbecomes other (FieldType.test?_between hranges)
        (f := .between c.ref (.int v) (.int v2)) ?_
      rw [hvalue, hvalue2]
      exact ColumnTest.formula_range (Column.value_int htype v) (Column.value_int htype v2)
  | text hc htype hmapping hequal hoperator hvalue =>
      obtain ⟨hregisters, hcompares⟩ := FieldType.comparison?_text _ hequal
      obtain ⟨comparison, hcomparison⟩ := Option.isSome_iff_exists.1 hcompares
      rw [← htype] at hregisters hcomparison
      refine hc.bindings_comparison hmapping hoperator hregisters hbecomes other hcomparison ?_
      rw [hvalue]
      exact Column.value_text htype _
  | containing hc htype hmapping hcontains hoperator hvalue =>
      obtain ⟨hregisters, negated, htest⟩ := FieldType.test?_containing hcontains
      rw [← htype] at hregisters htest
      exact hc.bindings_pattern hmapping hoperator hregisters hbecomes other htest hvalue
  | starting hc htype hmapping hoperator hvalue =>
      have hstarts : FieldType.text.Registers "starts_with" := by decide
      have htest : FieldType.text.test? "starts_with" = some (.pattern false Like.startingWith) := rfl
      rw [← htype] at hstarts htest
      exact hc.bindings_pattern hmapping hoperator hstarts hbecomes other htest hvalue
  | ending hc htype hmapping hoperator hvalue =>
      have hends : FieldType.text.Registers "ends_with" := by decide
      have htest : FieldType.text.test? "ends_with" = some (.pattern false Like.endingWith) := rfl
      rw [← htype] at hends htest
      exact hc.bindings_pattern hmapping hoperator hends hbecomes other htest hvalue

end Bindings

/-! ## What conditions bind -/

/-- A condition on a column that sends something binds that. -/
def Attribute.Binds (a : Attribute) (values : List Scalar) : Prop :=
  ∀ sent, a.Sends sent → values = sent

/-- The conditions on columns that a condition makes. An event makes one on its amount, if it compares it. -/
def Condition.attributes : Condition → List Attribute
  | .attribute a => [a]
  | .event e => Stored.eventAttributes e

/-- A condition binds what its conditions on columns do, one after the other. After that an event binds at most
two values more, for how far back and how often it has to have happened. -/
inductive Condition.Binds : Condition → List Scalar → Prop
  | attribute {a : Attribute} {values : List Scalar} (h : a.Binds values) :
      Binds (.attribute a) values
  | event {e : Event} {parts : List (List Scalar)} {extent : List Scalar}
      (h : List.Forall₂ Attribute.Binds (Stored.eventAttributes e) parts)
      (hextent : extent.length ≤ 2) : Binds (.event e) (parts.flatten ++ extent)

/-- A condition that is one on a column, and what it sends. -/
inductive Condition.Sends : Condition → List Scalar → Prop
  | attribute {a : Attribute} {sent : List Scalar} (h : a.Sends sent) : Sends (.attribute a) sent

variable {s : Setting} (d : Dialect)

theorem Attribute.binds_of_becomes {a a' : Attribute} {fallback : Dataset}
    (h : a.Becomes s fallback a') (other : String) :
    a.Binds ((boundBy (a'.formula other)).map (Binding.scalar d)) := by
  intro sent hsent
  obtain ⟨g, hg, hbindings⟩ := hsent.bindings_formula h other
  rw [hg, boundBy, hbindings, List.map_map]
  exact List.map_id sent

theorem Condition.binds_of_becomes {c c' : Condition} (h : c.Becomes s c') {f : Formula}
    (hf : c'.formula = .ok f) : c.Binds ((boundBy c'.formula).map (Binding.scalar d)) := by
  obtain ⟨clock, cache, rfl⟩ := h
  match c with
  | .attribute a => exact .attribute (Attribute.binds_of_becomes d ⟨clock, cache, rfl⟩ "")
  | .event e =>
      -- Its conditions on columns keep their places, and each becomes one that binds what it sent before.
      have hplaces := e.forall₂_eventAttributes (s.during clock) cache
      change (event ((e.normalize (s.during clock)).run cache).1).formula = .ok f at hf
      obtain ⟨extent, hextent, hbindings⟩ := bindings_formula_event hf
      have hbound : (boundBy (((event e).normalize (s.during clock)).run cache).1.formula).map
            (Binding.scalar d)
          = ((Stored.eventAttributes ((e.normalize (s.during clock)).run cache).1).map fun a =>
              (boundBy (a.formula Dataset.transactions.name)).map (Binding.scalar d)).flatten
            ++ extent.map (Binding.scalar d) := by
        rw [← List.flatMap_def, ← List.map_flatMap, ← List.flatMap_map, ← List.map_append, ← hbindings]
        exact congrArg (fun r => (boundBy r).map (Binding.scalar d)) hf
      rw [hbound]
      have hlength : (extent.map (Binding.scalar d)).length ≤ 2 := by rwa [List.length_map]
      refine .event (List.forall₂_map_right_iff.2 (hplaces.imp fun a a' hbecomes => ?_)) hlength
      exact Attribute.binds_of_becomes d hbecomes Dataset.transactions.name

/-- A condition has a formula if all its conditions on columns send something. -/
theorem Condition.exists_formula_of_sends {c c' : Condition} (h : c.Becomes s c')
    (hsends : ∀ a ∈ c.attributes, ∃ sent, a.Sends sent) : ∃ f, c'.formula = .ok f := by
  obtain ⟨clock, cache, rfl⟩ := h
  match c with
  | .attribute a =>
      obtain ⟨sent, hsent⟩ := hsends a List.mem_cons_self
      obtain ⟨g, hg, -⟩ := hsent.bindings_formula (s := s) ⟨clock, cache, rfl⟩ ""
      exact ⟨g, hg⟩
  | .event e =>
      have hformulas : ∀ a ∈ Stored.eventAttributes ((e.normalize (s.during clock)).run cache).1,
          ∃ f, a.formula Dataset.transactions.name = .ok f := by
        refine forall_mem_of_forall₂ (e.forall₂_eventAttributes (s.during clock) cache) ?_
        intro a ha a' hbecomes
        obtain ⟨sent, hsent⟩ := hsends a ha
        obtain ⟨g, hg, -⟩ := hsent.bindings_formula hbecomes Dataset.transactions.name
        exact ⟨g, hg⟩
      refine exists_eq_ok_iff.2 fun err herr => ?_
      exact forall_ok_iff.1 hformulas err ((formula_event_eq_error_iff _ err).1 herr)

/-- Where every condition sends something, the parts are what they send. -/
theorem eq_of_forall₂_binds {cs : List Condition} {parts sent : List (List Scalar)}
    (hbinds : List.Forall₂ Condition.Binds cs parts) (hsends : List.Forall₂ Condition.Sends cs sent) :
    parts = sent := by
  induction hsends generalizing parts with
  | nil => exact List.forall₂_nil_left_iff.1 hbinds
  | cons hsend _ ih =>
      obtain ⟨part, parts, hbind, hrest, rfl⟩ := List.forall₂_cons_left_iff.1 hbinds
      obtain ⟨hsend⟩ := hsend
      obtain ⟨hbind⟩ := hbind
      rw [hbind _ hsend, ih hrest]

end Criteria

namespace Compiler

/-- **Values reach the database unchanged.** A condition on a column that compares an integer, or two, or a
text of a column without mappings sends these values as they are (`Criteria.Attribute.Sends`). A tree whose
conditions all do so, at its root, in its groups and in its events, compiles. Whenever a tree compiles, what it
binds is made of a part for each of its conditions in order, and the part of a condition that sends something
is that; so a tree of such conditions binds exactly what they send. The store, the deadline, the dialect and
the cache play no part. -/
theorem values_unchanged (c : Compiler) (t : Criteria.Tree) (cache : Cache) :
    ((∀ x ∈ t.members, ∀ a ∈ x.attributes, ∃ sent, a.Sends sent) →
      ∃ p, c.compileSql ((c.compileTree t).run cache).1 = .ok p) ∧
    ∀ p, c.compileSql ((c.compileTree t).run cache).1 = .ok p →
      (∃ parts, List.Forall₂ Criteria.Condition.Binds t.members parts ∧ p.params = parts.flatten) ∧
      ∀ sent, List.Forall₂ Criteria.Condition.Sends t.members sent → p.params = sent.flatten := by
  have hplaces := t.forall₂_normalize c.setting cache
  refine ⟨fun hsends => ?_, fun p hp => ?_⟩
  · refine (Criteria.Tree.exists_predicate_iff_formula _ _).2 ?_
    exact forall_mem_of_forall₂ hplaces fun x hx x' hbecomes =>
      Criteria.Condition.exists_formula_of_sends hbecomes (hsends x hx)
  · -- Each condition stands in its place, and as the tree compiles it has a formula there.
    have hformulas := (Criteria.Tree.exists_predicate_iff_formula _ _).1 ⟨p, hp⟩
    have hboth := ((List.forall₂_and_left _ _).2 ⟨hformulas, hplaces.flip⟩).flip
    have hbinds : List.Forall₂ Criteria.Condition.Binds t.members
        (((t.normalize c.setting).run cache).1.members.map fun x =>
          (boundBy x.formula).map (Binding.scalar c.options.dialect)) := by
      refine List.forall₂_map_right_iff.2 (hboth.imp fun x x' hx => ?_)
      obtain ⟨⟨f, hf⟩, hbecomes⟩ := hx
      exact Criteria.Condition.binds_of_becomes c.options.dialect hbecomes hf
    have hparams := Criteria.Tree.params_predicate hp
    rw [List.flatMap_map, List.map_flatMap, List.flatMap_def] at hparams
    refine ⟨⟨_, hbinds, hparams⟩, fun sent hsent => ?_⟩
    exact hparams.trans (congrArg List.flatten (Criteria.eq_of_forall₂_binds hbinds hsent))

/-- Customers of any number, with a name that has all characters in it that patterns give a meaning. -/
def anyNumber : Criteria.Tree :=
  ⟨[.attribute ⟨some "customers", some "customer_id", some "between", .int Int64.minValue,
      .int Int64.maxValue⟩],
    [⟨.or, [.attribute ⟨none, some "full_name", some "contains", .text "100%_\\", .null⟩]⟩], .and⟩

theorem values_unchanged_anyNumber :
    ∃ p, standalone.compileSql ((standalone.compileTree anyNumber).run .standard).1 = .ok p ∧
      p.params = [.int (-9223372036854775808), .int 9223372036854775807,
        .text "%100\\%\\_\\\\%"] := by
  have hnumber : Criteria.Attribute.Sends
      ⟨some "customers", some "customer_id", some "between", .int Int64.minValue, .int Int64.maxValue⟩
      [.int Int64.minValue, .int Int64.maxValue] :=
    .range (c := ⟨.customers, "customer_id", .number, none⟩) ⟨by decide, rfl, Or.inl rfl⟩ rfl rfl rfl rfl
  have hname : Criteria.Attribute.Sends
      ⟨none, some "full_name", some "contains", .text "100%_\\", .null⟩
      [.text ("%" ++ Like.escape "100%_\\" ++ "%")] :=
    .containing (c := ⟨.customers, "full_name", .text, none⟩) ⟨by decide, rfl, Or.inr ⟨rfl, by decide⟩⟩
      rfl rfl (by decide) rfl rfl
  have hsends : List.Forall₂ Criteria.Condition.Sends anyNumber.members
      [[.int Int64.minValue, .int Int64.maxValue], [.text ("%" ++ Like.escape "100%_\\" ++ "%")]] :=
    .cons (.attribute hnumber) (.cons (.attribute hname) .nil)
  have hall : ∀ x ∈ anyNumber.members, ∀ a ∈ x.attributes, ∃ sent, a.Sends sent :=
    List.forall_mem_cons.2 ⟨List.forall_mem_singleton.2 ⟨_, hnumber⟩,
      List.forall_mem_singleton.2 (List.forall_mem_singleton.2 ⟨_, hname⟩)⟩
  obtain ⟨hcompiles, hparams⟩ := values_unchanged standalone anyNumber .standard
  obtain ⟨p, hp⟩ := hcompiles hall
  exact ⟨p, hp, ((hparams p hp).2 _ hsends).trans (by decide)⟩

end Compiler

end Audience
