import Audience.Sentence.Entities

set_option autoImplicit false

/-! # What sentences mention

A sentence mentions what is found in it as a gender, a place, an age range, how often something was
bought, what was spent, or a category of products (`mem_mentioned_iff`). Which of these it was shows from
the column that it is about, or from there being none; so a city is a place (`place?_of_mem_mentioned`),
and an event is how often something was bought or what was spent (`purchase_of_mem_mentioned`). -/

namespace Audience

/-- The column that an entity is about, if it is about one. -/
def Entity.column? : Entity → Option String
  | .attribute _ field _ _ _ => some field
  | .event _ _ => none

namespace Sentence

variable {cs : List Char} {e : Entity}

theorem mem_mentioned_iff :
    e ∈ mentioned cs ↔ gender? cs = some e ∨ place? cs = some e ∨ ageRange? cs = some e ∨
      frequency? cs = some e ∨ amount? cs = some e ∨ product? cs = some e := by
  refine List.mem_filterMap.trans ?_
  simp only [List.mem_cons, List.not_mem_nil, or_false, exists_eq_or_imp, exists_eq_left, id_eq]

/-! ## Columns -/

theorem column?_of_gender? (h : gender? cs = some e) : e.column? = some "gender" := by
  obtain ⟨m, -, he⟩ := Option.bind_eq_some_iff.1 h
  obtain rfl := Option.some.inj he
  rfl

theorem column?_of_place? (h : place? cs = some e) : e.column? = some "city" := by
  obtain ⟨name, -, rfl⟩ := Option.map_eq_some_iff.1 h
  rfl

theorem column?_of_ageRange? (h : ageRange? cs = some e) : e.column? = some "birth_date" := by
  obtain ⟨m, -, h⟩ := Option.bind_eq_some_iff.1 h
  obtain ⟨a, -, h⟩ := Option.bind_eq_some_iff.1 h
  obtain ⟨b, -, he⟩ := Option.bind_eq_some_iff.1 h
  obtain rfl := Option.some.inj he
  rfl

theorem column?_of_frequency? (h : frequency? cs = some e) : e.column? = none := by
  obtain ⟨m, -, h⟩ := Option.bind_eq_some_iff.1 h
  obtain ⟨count, -, he⟩ := Option.bind_eq_some_iff.1 h
  obtain rfl := Option.some.inj he
  rfl

theorem column?_of_amount? (h : amount? cs = some e) : e.column? = none := by
  obtain ⟨m, -, h⟩ := Option.bind_eq_some_iff.1 h
  obtain ⟨base, -, he⟩ := Option.bind_eq_some_iff.1 h
  obtain rfl := Option.some.inj he
  rfl

theorem column?_of_product? (h : product? cs = some e) : e.column? = some "category" := by
  obtain ⟨m, -, h⟩ := Option.bind_eq_some_iff.1 h
  obtain ⟨row, -, he⟩ := Option.bind_eq_some_iff.1 h
  obtain rfl := Option.some.inj he
  rfl

/-! ## Where entities come from -/

/-- A city is found as a place. -/
theorem place?_of_mem_mentioned (h : e ∈ mentioned cs) (hcity : e.column? = some "city") :
    place? cs = some e := by
  rcases mem_mentioned_iff.1 h with h | h | h | h | h | h
  · simp [column?_of_gender? h] at hcity
  · exact h
  · simp [column?_of_ageRange? h] at hcity
  · simp [column?_of_frequency? h] at hcity
  · simp [column?_of_amount? h] at hcity
  · simp [column?_of_product? h] at hcity

/-- An event is found as how often something was bought or what was spent. -/
theorem purchase_of_mem_mentioned (h : e ∈ mentioned cs) (hevent : e.column? = none) :
    frequency? cs = some e ∨ amount? cs = some e := by
  rcases mem_mentioned_iff.1 h with h | h | h | h | h | h
  · simp [column?_of_gender? h] at hevent
  · simp [column?_of_place? h] at hevent
  · simp [column?_of_ageRange? h] at hevent
  · exact .inl h
  · exact .inr h
  · simp [column?_of_product? h] at hevent

end Sentence

end Audience
