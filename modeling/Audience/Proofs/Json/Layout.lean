import Audience.Proofs.Json.Token

set_option autoImplicit false

/-! # Written JSON read back

The compact and the pretty text of a value differ in the blanks between its parts, and in nothing else:
both are the value under a `Layout`. Whatever the layout, a value whose numbers are all integers is read
back with nothing lost (`readDocument_chars`). What one step of the reader does is said once for values,
items and members (`readsValue_succ`, `readsItems_succ`, `readsMembers_succ`); the induction is on the
fuel, of which every step takes one and every character brings two. -/

namespace Audience.Json

/-! ## Layouts -/

/-- How the parts of a text are set apart: what stands in front of an item, a member or a closing
bracket within so many containers, and what stands between a colon and its value. All of it is blank. -/
structure Layout where
  lead : Nat → List Char
  afterColon : List Char
  lead_gap : ∀ n, ∀ c ∈ lead n, isGap c = true
  afterColon_gap : ∀ c ∈ afterColon, isGap c = true

namespace Layout

/-- Nothing between the parts. -/
def compact : Layout where
  lead _ := []
  afterColon := []
  lead_gap := by simp
  afterColon_gap := by simp

theorem isGap_of_mem_newLine {n : Nat} {c : Char} (h : c ∈ newLine n) : isGap c = true := by
  rcases List.mem_cons.mp h with rfl | h
  · rfl
  · rw [List.eq_of_mem_replicate h]
    rfl

/-- A line for every item and member. -/
def pretty : Layout where
  lead := newLine
  afterColon := [' ']
  lead_gap _ _ h := isGap_of_mem_newLine h
  afterColon_gap := by simp [isGap]

mutual

/-- The text of a value that stands within `indent` containers. -/
def chars (l : Layout) (indent : Nat) : Json → List Char
  | .array (item :: items) =>
    '[' :: l.lead (indent + 1) ++ l.chars (indent + 1) item ++ l.items indent items
  | .object ((key, value) :: members) =>
    '{' :: l.lead (indent + 1) ++ quoted key ++ ':' :: l.afterColon ++ l.chars (indent + 1) value
      ++ l.members indent members
  | value => compactChars value

/-- The items after the first, up to the closing bracket. -/
def items (l : Layout) (indent : Nat) : List Json → List Char
  | [] => l.lead indent ++ [']']
  | item :: items =>
    ',' :: l.lead (indent + 1) ++ l.chars (indent + 1) item ++ l.items indent items

/-- The members after the first, up to the closing bracket. -/
def members (l : Layout) (indent : Nat) : List (String × Json) → List Char
  | [] => l.lead indent ++ ['}']
  | (key, value) :: members =>
    ',' :: l.lead (indent + 1) ++ quoted key ++ ':' :: l.afterColon ++ l.chars (indent + 1) value
      ++ l.members indent members

end

/-- Within a value without parts there is nothing to be set apart. -/
theorem chars_of_partless (l : Layout) (indent : Nat) {v : Json}
    (harray : ∀ item items, v ≠ .array (item :: items))
    (hobject : ∀ m members, v ≠ .object (m :: members)) : l.chars indent v = compactChars v := by
  rw [chars]
  · rintro item items rfl
    exact harray item items rfl
  · rintro key value members rfl
    exact hobject (key, value) members rfl

mutual

theorem chars_compact (indent : Nat) : ∀ v : Json, compact.chars indent v = compactChars v
  | .null | .bool _ | .number _ | .string _ | .array [] | .object [] =>
    chars_of_partless compact indent (by simp) (by simp)
  | .array (item :: items) => by
    rw [chars, compactChars, chars_compact, items_compact]
    rfl
  | .object ((key, value) :: members) => by
    rw [chars, compactChars, chars_compact, members_compact]
    simp [compact]

theorem items_compact (indent : Nat) : ∀ vs : List Json, compact.items indent vs = compactItems vs
  | [] => rfl
  | item :: items => by
    rw [Layout.items, compactItems, chars_compact, items_compact]
    rfl

theorem members_compact (indent : Nat) :
    ∀ ms : List (String × Json), compact.members indent ms = compactMembers ms
  | [] => rfl
  | (key, value) :: members => by
    rw [Layout.members, compactMembers, chars_compact, members_compact]
    simp [compact]

end

mutual

theorem chars_pretty (indent : Nat) : ∀ v : Json, pretty.chars indent v = prettyChars indent v
  | .null | .bool _ | .number _ | .string _ | .array [] | .object [] => by
    rw [chars_of_partless pretty indent (by simp) (by simp), prettyChars] <;> simp
  | .array (item :: items) => by
    rw [chars, prettyChars, chars_pretty, items_pretty]
    rfl
  | .object ((key, value) :: members) => by
    rw [chars, prettyChars, chars_pretty, members_pretty]
    simp [pretty]

theorem items_pretty (indent : Nat) :
    ∀ vs : List Json, pretty.items indent vs = prettyItems indent vs
  | [] => rfl
  | item :: items => by
    rw [Layout.items, prettyItems, chars_pretty, items_pretty]
    rfl

theorem members_pretty (indent : Nat) :
    ∀ ms : List (String × Json), pretty.members indent ms = prettyMembers indent ms
  | [] => rfl
  | (key, value) :: members => by
    rw [Layout.members, prettyMembers, chars_pretty, members_pretty]
    simp [pretty]

end

end Layout

/-! ## Blanks and first characters -/

theorem skipGap_append {gap : List Char} (h : ∀ c ∈ gap, isGap c = true) (cs : List Char) :
    skipGap (gap ++ cs) = skipGap cs :=
  List.dropWhile_append_of_pos h

theorem skipGap_cons {c : Char} (h : isGap c = false) (cs : List Char) :
    skipGap (c :: cs) = c :: cs := by
  simp [skipGap, h]

/-- Values whose numbers are all integers that a literal can give. -/
inductive Integral : Json → Prop where
  | null : Integral .null
  | bool (b : Bool) : Integral (.bool b)
  | integer {n : Int} (h : InRange n) : Integral (.number (.integer n))
  | string (s : String) : Integral (.string s)
  | array {items : List Json} (h : ∀ v ∈ items, Integral v) : Integral (.array items)
  | object {members : List (String × Json)} (h : ∀ m ∈ members, Integral m.2) :
      Integral (.object members)

/-- A character at which blanks end and the items of an array do not. -/
def Starts (c : Char) : Prop :=
  isGap c = false ∧ c ≠ ']'

instance (c : Char) : Decidable (Starts c) :=
  inferInstanceAs (Decidable (_ ∧ _))

theorem starts_of_isDigit {c : Char} (h : c.isDigit = true) : Starts c := by
  constructor
  · cases hgap : isGap c with
    | false => rfl
    | true =>
        simp only [isGap, Bool.or_eq_true, beq_iff_eq] at hgap
        rcases hgap with ((rfl | rfl) | rfl) | rfl <;> exact absurd h (by decide)
  · rintro rfl
    exact absurd h (by decide)

theorem exists_intText_eq_cons (n : Int) :
    ∃ c cs, Number.intText n = c :: cs ∧ (c = '-' ∨ c.isDigit = true) := by
  cases h : Number.intText n with
  | nil =>
      unfold Number.intText at h
      split at h
      · cases h
      · exact absurd h (Number.natText_ne_nil _)
  | cons c cs =>
      exact ⟨c, cs, rfl, Number.isDigit_of_mem_intText (n := n) (by rw [h]; exact List.mem_cons_self)⟩

theorem exists_chars_eq_cons (l : Layout) (indent : Nat) {v : Json} (h : Integral v) :
    ∃ c cs, l.chars indent v = c :: cs ∧ Starts c := by
  cases h with
  | null => exact ⟨'n', _, l.chars_of_partless indent (by simp) (by simp), by decide⟩
  | bool b =>
      rw [l.chars_of_partless indent (by simp) (by simp)]
      cases b with
      | true => exact ⟨'t', _, rfl, by decide⟩
      | false => exact ⟨'f', _, rfl, by decide⟩
  | @integer n _ =>
      obtain ⟨c, cs, hcons, hc⟩ := exists_intText_eq_cons n
      rw [l.chars_of_partless indent (by simp) (by simp)]
      refine ⟨c, cs, hcons, ?_⟩
      rcases hc with rfl | hdigit
      · decide
      · exact starts_of_isDigit hdigit
  | string s => exact ⟨'"', _, l.chars_of_partless indent (by simp) (by simp), by decide⟩
  | @array items _ =>
      cases items with
      | nil => exact ⟨'[', _, l.chars_of_partless indent (by simp) (by simp), by decide⟩
      | cons item items => exact ⟨'[', _, by rw [Layout.chars]; rfl, by decide⟩
  | @object members _ =>
      cases members with
      | nil => exact ⟨'{', _, l.chars_of_partless indent (by simp) (by simp), by decide⟩
      | cons m members => exact ⟨'{', _, by rw [Layout.chars]; rfl, by decide⟩

theorem length_chars_pos (l : Layout) (indent : Nat) {v : Json} (h : Integral v) :
    0 < (l.chars indent v).length := by
  obtain ⟨c, cs, hcons, -⟩ := exists_chars_eq_cons l indent h
  rw [hcons, List.length_cons]
  omega

theorem endsNumber_cons {c : Char} (h : extendsNumber c = false) (rest : List Char) :
    EndsNumber (c :: rest) := by
  intro d hd
  obtain rfl : c = d := Option.some.inj hd
  exact h

theorem endsNumber_of_gap {gap : List Char} (h : ∀ c ∈ gap, isGap c = true) {c : Char}
    (hc : extendsNumber c = false) (rest : List Char) : EndsNumber (gap ++ c :: rest) := by
  cases gap with
  | nil => exact endsNumber_cons hc rest
  | cons e gap =>
      refine endsNumber_cons ?_ _
      have hgap := h e List.mem_cons_self
      simp only [isGap, Bool.or_eq_true, beq_iff_eq] at hgap
      rcases hgap with ((rfl | rfl) | rfl) | rfl <;> decide

theorem endsNumber_items (l : Layout) (indent : Nat) (vs : List Json) (rest : List Char) :
    EndsNumber (l.items indent vs ++ rest) := by
  cases vs with
  | nil =>
      rw [Layout.items, List.append_assoc]
      exact endsNumber_of_gap (l.lead_gap indent) (by decide) rest
  | cons v vs =>
      rw [Layout.items]
      exact endsNumber_cons (by decide) _

theorem endsNumber_members (l : Layout) (indent : Nat) (ms : List (String × Json))
    (rest : List Char) : EndsNumber (l.members indent ms ++ rest) := by
  cases ms with
  | nil =>
      rw [Layout.members, List.append_assoc]
      exact endsNumber_of_gap (l.lead_gap indent) (by decide) rest
  | cons m ms =>
      rw [Layout.members]
      exact endsNumber_cons (by decide) _

/-! ## One step of the reader -/

theorem readValue_append {gap : List Char} (h : ∀ c ∈ gap, isGap c = true) (fuel : Nat)
    (cs : List Char) : readValue fuel (gap ++ cs) = readValue fuel cs := by
  cases fuel with
  | zero => rfl
  | succ fuel => rw [readValue, readValue, skipGap_append h]

theorem readItem_append {gap : List Char} (h : ∀ c ∈ gap, isGap c = true) (fuel : Nat)
    (cs : List Char) : readItem fuel (gap ++ cs) = readItem fuel cs := by
  cases fuel with
  | zero => rfl
  | succ fuel => rw [readItem, readItem, readValue_append h]

/-- With this fuel, every value is read back. -/
def ReadsValue (l : Layout) (fuel : Nat) : Prop :=
  ∀ (v : Json) (indent : Nat) (rest : List Char), Integral v → EndsNumber rest →
    2 * (l.chars indent v).length ≤ fuel →
      readValue fuel (l.chars indent v ++ rest) = (.ofJson v, .ok rest)

/-- With this fuel, an item and all items after it are read back. -/
def ReadsItems (l : Layout) (fuel : Nat) : Prop :=
  ∀ (v : Json) (vs : List Json) (indent : Nat) (rest : List Char), Integral v →
    (∀ w ∈ vs, Integral w) →
    2 * ((l.chars (indent + 1) v).length + (l.items indent vs).length) ≤ fuel →
      readItem fuel (l.chars (indent + 1) v ++ (l.items indent vs ++ rest))
        = (itemsOfJson (v :: vs), .ok rest)

/-- With this fuel, a member whose opening quote was passed and all members after it are read back. -/
def ReadsMembers (l : Layout) (fuel : Nat) : Prop :=
  ∀ (key : String) (v : Json) (ms : List (String × Json)) (indent : Nat) (rest : List Char),
    Integral v → (∀ m ∈ ms, Integral m.2) →
    2 * ((l.chars (indent + 1) v).length + (l.members indent ms).length) ≤ fuel →
      readMember fuel (key.toList.flatMap escapeChar ++ '"' :: ':' ::
          (l.afterColon ++ (l.chars (indent + 1) v ++ (l.members indent ms ++ rest))))
        = (membersOfJson ((key, v) :: ms), .ok rest)

theorem readsItems_succ {l : Layout} {fuel : Nat} (hvalue : ReadsValue l fuel)
    (hitems : ReadsItems l fuel) : ReadsItems l (fuel + 1) := by
  intro v vs indent rest hv hvs hfuel
  cases vs with
  | nil =>
      rw [Layout.items, List.length_append, List.length_singleton] at hfuel
      have hread := hvalue v (indent + 1) (l.items indent [] ++ rest) hv
        (endsNumber_items l indent [] rest) (by omega)
      rw [readItem, hread]
      simp only [Layout.items, List.append_assoc, skipGap_append (l.lead_gap indent)]
      rw [List.singleton_append, skipGap_cons (by decide)]
      rfl
  | cons w ws =>
      simp only [Layout.items, List.length_append, List.length_cons] at hfuel
      have hread := hvalue v (indent + 1) (l.items indent (w :: ws) ++ rest) hv
        (endsNumber_items l indent (w :: ws) rest) (by omega)
      have hrest := hitems w ws indent rest (hvs w List.mem_cons_self)
        (fun u hu => hvs u (List.mem_cons_of_mem w hu)) (by omega)
      rw [readItem, hread]
      simp only [Layout.items, List.cons_append, List.append_assoc]
      rw [skipGap_cons (by decide)]
      simp only [readItem_append (l.lead_gap (indent + 1)), hrest]
      rfl

theorem readsMembers_succ {l : Layout} {fuel : Nat} (hvalue : ReadsValue l fuel)
    (hmembers : ReadsMembers l fuel) : ReadsMembers l (fuel + 1) := by
  intro key v ms indent rest hv hms hfuel
  rw [readMember, readString_escaped]
  simp only []
  rw [skipGap_cons (by decide)]
  cases ms with
  | nil =>
      rw [Layout.members, List.length_append, List.length_singleton] at hfuel
      have hread := hvalue v (indent + 1) (l.members indent [] ++ rest) hv
        (endsNumber_members l indent [] rest) (by omega)
      simp only [readValue_append l.afterColon_gap, hread]
      simp only [Layout.members, List.append_assoc, skipGap_append (l.lead_gap indent)]
      rw [List.singleton_append, skipGap_cons (by decide)]
      rfl
  | cons m ms =>
      obtain ⟨k, w⟩ := m
      simp only [Layout.members, List.length_append, List.length_cons] at hfuel
      have hread := hvalue v (indent + 1) (l.members indent ((k, w) :: ms) ++ rest) hv
        (endsNumber_members l indent ((k, w) :: ms) rest) (by omega)
      have hrest := hmembers k w ms indent rest (hms (k, w) List.mem_cons_self)
        (fun u hu => hms u (List.mem_cons_of_mem (k, w) hu)) (by omega)
      simp only [readValue_append l.afterColon_gap, hread]
      simp only [Layout.members, quoted, List.cons_append, List.append_assoc, List.nil_append]
      rw [skipGap_cons (by decide)]
      simp only [skipGap_append (l.lead_gap (indent + 1))]
      rw [skipGap_cons (by decide)]
      simp only [hrest]
      rfl

/-- A number is known by its first character. -/
theorem readValue_number {c : Char} (hc : c = '-' ∨ c.isDigit = true) (fuel : Nat)
    (cs : List Char) : readValue (fuel + 1) (c :: cs) = readNumber (c :: cs) := by
  have hstart : isGap c = false := by
    rcases hc with rfl | hdigit
    · rfl
    · exact (starts_of_isDigit hdigit).1
  have hne : c ≠ 'n' ∧ c ≠ 't' ∧ c ≠ 'f' ∧ c ≠ '"' ∧ c ≠ '[' ∧ c ≠ '{' := by
    refine ⟨?_, ?_, ?_, ?_, ?_, ?_⟩ <;>
      (rintro rfl; rcases hc with h | h <;> revert h <;> decide)
  have hnumber : (c = '-' || c.isDigit) = true := by simpa using hc
  rw [readValue, skipGap_cons hstart]
  simp [hne, hnumber]

/-- With this fuel, the items after an opening bracket are read back. -/
theorem readFirstItem_eq {l : Layout} {fuel : Nat} {v : Json} {vs : List Json} (indent : Nat)
    (rest : List Char) (hitems : ReadsItems l fuel) (hv : Integral v) (hvs : ∀ w ∈ vs, Integral w)
    (hfuel : 2 * ((l.chars (indent + 1) v).length + (l.items indent vs).length) ≤ fuel) :
    readFirstItem (fuel + 1)
        (l.lead (indent + 1) ++ (l.chars (indent + 1) v ++ (l.items indent vs ++ rest)))
      = (itemsOfJson (v :: vs), .ok rest) := by
  have hread := hitems v vs indent rest hv hvs hfuel
  obtain ⟨c, cs, hcons, hgap, hbracket⟩ := exists_chars_eq_cons l (indent + 1) hv
  rw [hcons] at hread
  rw [readFirstItem, skipGap_append (l.lead_gap (indent + 1)), hcons, List.cons_append,
    skipGap_cons hgap]
  simpa [hbracket] using hread

theorem readsValue_succ {l : Layout} {fuel : Nat} (hitems : ∀ n < fuel, ReadsItems l n)
    (hmembers : ∀ n < fuel, ReadsMembers l n) : ReadsValue l (fuel + 1) := by
  intro v indent rest hv hrest hfuel
  cases hv with
  | null =>
      rw [l.chars_of_partless indent (by simp) (by simp)]
      rfl
  | bool b =>
      rw [l.chars_of_partless indent (by simp) (by simp)]
      cases b <;> rfl
  | @integer n h =>
      obtain ⟨c, cs, hcons, hc⟩ := exists_intText_eq_cons n
      have hread := readNumber_intText h hrest
      rw [l.chars_of_partless indent (by simp) (by simp), compactChars, Number.text]
      rw [hcons, List.cons_append] at hread ⊢
      rw [readValue_number hc, hread]
      rfl
  | string s =>
      rw [l.chars_of_partless indent (by simp) (by simp), compactChars, quoted]
      simp only [List.cons_append, List.append_assoc, List.nil_append]
      rw [readValue, skipGap_cons (by decide)]
      exact readText_escaped s rest
  | @array items h =>
      cases items with
      | nil =>
          rw [l.chars_of_partless indent (by simp) (by simp)] at hfuel ⊢
          have htwo : 2 * 2 ≤ fuel + 1 := hfuel
          obtain ⟨fuel, rfl⟩ : ∃ n, fuel = n + 1 := ⟨fuel - 1, by omega⟩
          rfl
      | cons item items =>
          simp only [Layout.chars, List.cons_append, List.append_assoc, List.length_cons,
            List.length_append] at hfuel ⊢
          obtain ⟨fuel, rfl⟩ : ∃ n, fuel = n + 1 := ⟨fuel - 1, by omega⟩
          have hvs : ∀ w ∈ items, Integral w := fun w hw => h w (List.mem_cons_of_mem item hw)
          have hread := readFirstItem_eq indent rest (hitems fuel (by omega))
            (h item List.mem_cons_self) hvs (by omega)
          rw [readValue, skipGap_cons (by decide)]
          simp only [hread]
          rfl
  | @object members h =>
      cases members with
      | nil =>
          rw [l.chars_of_partless indent (by simp) (by simp)] at hfuel ⊢
          have htwo : 2 * 2 ≤ fuel + 1 := hfuel
          obtain ⟨fuel, rfl⟩ : ∃ n, fuel = n + 1 := ⟨fuel - 1, by omega⟩
          rfl
      | cons m members =>
          obtain ⟨key, value⟩ := m
          simp only [Layout.chars, quoted, List.cons_append, List.append_assoc, List.nil_append,
            List.length_cons, List.length_append] at hfuel ⊢
          obtain ⟨fuel, rfl⟩ : ∃ n, fuel = n + 1 := ⟨fuel - 1, by omega⟩
          have hread := hmembers fuel (by omega) key value members indent rest
            (h (key, value) List.mem_cons_self)
            (fun m hm => h m (List.mem_cons_of_mem (key, value) hm)) (by omega)
          rw [readValue, skipGap_cons (by decide)]
          simp only [readFirstMember, skipGap_append (l.lead_gap (indent + 1))]
          rw [skipGap_cons (by decide)]
          simp only [hread]
          rfl

/-- Two steps for each character are enough. -/
theorem reads_all (l : Layout) (fuel : Nat) :
    ReadsValue l fuel ∧ ReadsItems l fuel ∧ ReadsMembers l fuel := by
  induction fuel using Nat.strongRecOn with
  | ind fuel ih =>
      cases fuel with
      | zero =>
          refine ⟨?_, ?_, ?_⟩
          · intro v indent rest hv _ hfuel
            have hpos := length_chars_pos l indent hv
            omega
          · intro v vs indent rest hv _ hfuel
            have hpos := length_chars_pos l (indent + 1) hv
            omega
          · intro key v ms indent rest hv _ hfuel
            have hpos := length_chars_pos l (indent + 1) hv
            omega
      | succ fuel =>
          obtain ⟨hvalue, hitems, hmembers⟩ := ih fuel (Nat.lt_succ_self fuel)
          exact ⟨readsValue_succ (fun n hn => (ih n (by omega)).2.1)
            (fun n hn => (ih n (by omega)).2.2), readsItems_succ hvalue hitems,
            readsMembers_succ hvalue hmembers⟩

/-- Under any layout a value without fractions is read back, and nothing follows it. -/
theorem readDocument_chars (l : Layout) {v : Json} (h : Integral v) :
    readDocument (.ofList (l.chars 0 v)) = ⟨.ofJson v, none⟩ := by
  have hread := (reads_all l (2 * (l.chars 0 v).length + 2)).1 v 0 [] h (by simp [EndsNumber])
    (by omega)
  rw [List.append_nil] at hread
  simp only [readDocument, String.toList_ofList, hread]
  rfl

theorem readDocument_compact {v : Json} (h : Integral v) :
    readDocument v.compact = ⟨.ofJson v, none⟩ := by
  rw [compact, ← Layout.chars_compact 0, readDocument_chars .compact h]

end Audience.Json
