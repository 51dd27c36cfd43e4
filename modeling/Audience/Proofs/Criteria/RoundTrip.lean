import Audience.Proofs.Criteria.Lenient
import Audience.Proofs.Criteria.Written
import Audience.Proofs.Text.Words

set_option autoImplicit false

/-! # Criteria read back

Criteria without floating-point numbers are read back from what was written of them, by the strict reader
from the text and by the lenient reader from the value (`Tree.read_toJson`). Every condition is written with
its kind, so none has to be guessed, and a frequency is written as an object, which is never taken for a
count (`countOf_object`). -/

namespace Audience

/-! ## Scalars -/

namespace Scalar

/-- Whether a value is a floating-point number. -/
def isFloat : Scalar → Bool
  | .float _ => true
  | _ => false

theorem ofJson_toJson {x : Scalar} (h : x.isFloat = false) : ofJson x.toJson = x := by
  cases x with
  | int n => simp only [toJson, Json.ofInt, ofJson, ofNumber, Number.int64?_toInt]
  | float x => cases h
  | null | bool | text => rfl

theorem integral_toJson {x : Scalar} (h : x.isFloat = false) : Json.Integral x.toJson := by
  cases x with
  | int n => exact Json.integral_int64 n
  | float x => cases h
  | null | bool | text => constructor

end Scalar

/-! ## Numbers -/

namespace Number

theorem readInt64?_brace (cs : List Char) : readInt64? ('{' :: cs) = none := by
  simp [readInt64?, readInt?, readNat?]

theorem readFloat?_brace (cs : List Char) : readFloat? ('{' :: cs) = none := by
  have hdigit : Char.isDigit '{' = false := by decide
  have hlower : Char.toLower '{' = '{' := by decide
  have hunsigned : readUnsigned? ('{' :: cs) = none := by
    simp [readUnsigned?, hdigit]
  have hnamed : readNamed? ('{' :: cs) = none := by
    simp [readNamed?, hlower, ← String.toList_inj]
  simp [readFloat?, hunsigned, hnamed]

end Number

namespace Criteria

open Json

/-! ## The values that criteria hold -/

/-- The values of a column condition. -/
def Attribute.values (a : Attribute) : List Scalar :=
  [a.value, a.value2]

/-- The values of an event condition and of the conditions on its columns. -/
def Event.values (e : Event) : List Scalar :=
  e.value :: e.attributes.flatMap Attribute.values

/-- The values of a condition. -/
def Condition.values : Condition → List Scalar
  | .attribute a => a.values
  | .event e => e.values

/-- The values of all conditions of a tree, at the root and in the groups. -/
def Tree.values (t : Tree) : List Scalar :=
  (t.conditions ++ t.groups.flatMap (·.conditions)).flatMap Condition.values

/-- Whether no value is a floating-point number. -/
def FloatFree (xs : List Scalar) : Prop :=
  ∀ x ∈ xs, x.isFloat = false

theorem FloatFree.of_condition {t : Tree} (h : FloatFree t.values) {c : Condition}
    (hc : c ∈ t.conditions) : FloatFree c.values := fun x hx =>
  h x (List.mem_flatMap.mpr ⟨c, List.mem_append_left _ hc, hx⟩)

theorem FloatFree.of_group {t : Tree} (h : FloatFree t.values) {g : Group} (hg : g ∈ t.groups)
    {c : Condition} (hc : c ∈ g.conditions) : FloatFree c.values := fun x hx =>
  h x (List.mem_flatMap.mpr
    ⟨c, List.mem_append_right _ (List.mem_flatMap.mpr ⟨g, hg, hc⟩), hx⟩)

theorem FloatFree.of_attribute {e : Event} (h : FloatFree e.values) {a : Attribute}
    (ha : a ∈ e.attributes) : FloatFree a.values := fun x hx =>
  h x (List.mem_cons_of_mem _ (List.mem_flatMap.mpr ⟨a, ha, hx⟩))

/-! ## Counts and windows -/

/-- An object is no count, whatever its text is. -/
theorem countOf_object (members : List (String × Json)) : countOf (.object members) = none := by
  have hbrace : ∃ cs, (Json.object members).compact.toList = '{' :: cs := by
    cases members with
    | nil => exact ⟨['}'], rfl⟩
    | cons m rest =>
        rw [compact, String.toList_ofList, compactChars]
        exact ⟨_, rfl⟩
  obtain ⟨cs, hcs⟩ := hbrace
  obtain ⟨ds, hds⟩ := Text.exists_trim_cons (c := '{') (by decide) cs
  rw [countOf, Scalar.ofJson, Scalar.int64?]
  simp only [hcs, hds, Number.readInt64?_brace, Number.readFloat?_brace, Option.none_or, Option.bind_none]

theorem countOf_int (n : Int64) : countOf (.ofInt n.toInt) = some n := by
  rw [countOf, ← Scalar.toJson, Scalar.ofJson_toJson rfl]
  rfl

/-- An object with two members in the order of their keys is sorted. -/
theorem sorted_pair {key key' : String} {v w : Json} (hkey : key < key') (hv : v.sorted = v)
    (hw : w.sorted = w) :
    (Json.object [(key, v), (key', w)]).sorted = .object [(key, v), (key', w)] := by
  have hordered : Ordered [(key, v), (key', w)] := by simpa [Ordered] using hkey
  rw [Json.sorted, sortedMembers_eq_map, List.map_cons, List.map_cons, List.map_nil, hv, hw,
    sortMembers_eq_self hordered]

theorem Frequency.ofJson_toJson (f : Frequency) : Frequency.ofJson f.toJson.sorted = f := by
  rw [Frequency.toJson, sorted_pair (by decide) rfl rfl, Frequency.ofJson, countOf_object]
  simp [textMember, countMember, member?, members?, List.lookup_cons, string?, countOf_int]

theorem Period.ofJson_toJson (p : Period) : Period.ofJson p.toJson.sorted = p := by
  rw [Period.toJson, sorted_pair (by decide) rfl rfl, Period.ofJson]
  simp [textMember, countMember, member?, members?, List.lookup_cons, string?, countOf_int]

/-! ## Conditions from their drafts -/

theorem Attribute.toAttribute_draft {a : Attribute} (h : FloatFree a.values)
    (kind : Option String) : (Draft.ofAttribute kind a).toAttribute = a := by
  have hvalue : Scalar.ofJson a.value.toJson = a.value :=
    Scalar.ofJson_toJson (h a.value List.mem_cons_self)
  have hvalue2 : Scalar.ofJson a.value2.toJson = a.value2 :=
    Scalar.ofJson_toJson (h a.value2 (List.mem_cons_of_mem _ List.mem_cons_self))
  have hoperator : (a.operator.map Json.string).bind Json.string? = a.operator := by
    cases a.operator <;> rfl
  simp only [Draft.ofAttribute, Draft.toAttribute, hvalue, hvalue2, hoperator]

theorem filterMap_map_eq_self {α β : Type} {toJson : α → β} {ofJson? : β → Option α} {as : List α}
    (h : ∀ a ∈ as, ofJson? (toJson a) = some a) : (as.map toJson).filterMap ofJson? = as := by
  induction as with
  | nil => rfl
  | cons a rest ih =>
      obtain ⟨hfirst, hrest⟩ := List.forall_mem_cons.mp h
      rw [List.map_cons, List.filterMap_cons_some hfirst, ih hrest]

theorem Attribute.ofJson?_sorted_members (a : Attribute) :
    Draft.ofJson? (Json.object a.members).sorted = some (Draft.ofAttribute none a) := by
  have hread : (Draft.record 0).decode (.ofJson (.object a.members)) = .ok (.ofAttribute none a) :=
    (a.takes_members 0 none).decodeWith (by decide) _
  exact Draft.ofJson?_of_decode (toJson_ofJson _ _ (Nat.le_refl _)) hread

theorem Event.toEvent_draft {e : Event} (h : FloatFree e.values) :
    (Draft.ofEvent e).toEvent = e := by
  have hvalue : Scalar.ofJson e.value.toJson = e.value :=
    Scalar.ofJson_toJson (h e.value List.mem_cons_self)
  have hoperator : (e.operator.map Json.string).bind Json.string? = e.operator := by
    cases e.operator <;> rfl
  have hfrequency : (e.frequency.map (·.toJson.sorted)).map Frequency.ofJson = e.frequency := by
    cases e.frequency with
    | none => rfl
    | some f => rw [Option.map_some, Option.map_some, Frequency.ofJson_toJson]
  have hperiod : (e.period.map (·.toJson.sorted)).map Period.ofJson = e.period := by
    cases e.period with
    | none => rfl
    | some p => rw [Option.map_some, Option.map_some, Period.ofJson_toJson]
  have hattributes : ((if e.attributes.isEmpty then none
      else some (e.attributes.map fun a => (Json.object a.members).sorted)).getD []).filterMap
        (fun v => (Draft.ofJson? v).map Draft.toAttribute) = e.attributes := by
    by_cases hempty : e.attributes.isEmpty = true
    · rw [if_pos hempty, List.isEmpty_iff.mp hempty]
      rfl
    · -- Each column condition is read back from its members, sorted and without a kind.
      rw [if_neg hempty, Option.getD_some]
      refine filterMap_map_eq_self fun a ha => ?_
      rw [a.ofJson?_sorted_members, Option.map_some, Attribute.toAttribute_draft (h.of_attribute ha)]
  simp only [Draft.ofEvent, Draft.toEvent, hvalue, hoperator, hfrequency, hperiod, hattributes,
    Option.getD_some]

theorem Draft.classify_attribute {d : Draft} (h : d.kind = some "attribute") :
    d.classify = .ok (.attribute d.toAttribute) := by
  have hkind : Text.asciiLowered (Text.trimmed "attribute") = "attribute" := by decide
  rw [Draft.classify, h, Option.map_some, hkind]
  rfl

theorem Draft.classify_event {d : Draft} (h : d.kind = some "event") :
    d.classify = .ok (.event d.toEvent) := by
  have hkind : Text.asciiLowered (Text.trimmed "event") = "event" := by decide
  rw [Draft.classify, h, Option.map_some, hkind]
  rfl

/-- The draft of a condition stands for that condition. -/
theorem Condition.classify_draft {c : Condition} (h : FloatFree c.values) :
    (Draft.ofCondition c).classify = .ok c := by
  cases c with
  | «attribute» a =>
      rw [Draft.ofCondition, Draft.classify_attribute rfl, Attribute.toAttribute_draft h]
  | event e => rw [Draft.ofCondition, Draft.classify_event rfl, Event.toEvent_draft h]

/-! ## Members, one by one -/

theorem forall_mem_optional {p : Json → Prop} (hstring : ∀ s, p (.string s)) (key : String)
    (s : Option String) : ∀ m ∈ optional key s, p m.2 := by
  cases s with
  | none => simp [optional]
  | some s => simpa [optional] using hstring s

theorem forall_mem_unlessNull {p : Json → Prop} {x : Scalar} (hx : p x.toJson) (key : String) :
    ∀ m ∈ unlessNull key x, p m.2 := by
  rw [unlessNull]
  split
  · simp
  · simpa using hx

theorem Attribute.forall_members {p : Json → Prop} {a : Attribute} (hstring : ∀ s, p (.string s))
    (hvalues : ∀ x ∈ a.values, p x.toJson) : ∀ m ∈ a.members, p m.2 := by
  have hvalue := hvalues a.value List.mem_cons_self
  have hvalue2 := hvalues a.value2 (List.mem_cons_of_mem _ List.mem_cons_self)
  simp only [Attribute.members, List.forall_mem_append, List.forall_mem_cons]
  exact ⟨⟨⟨forall_mem_optional hstring _ _, forall_mem_optional hstring _ _⟩,
    forall_mem_optional hstring _ _⟩, hvalue, forall_mem_unlessNull hvalue2 _⟩

theorem Event.forall_members {p : Json → Prop} {e : Event} (hstring : ∀ s, p (.string s))
    (hvalue : p e.value.toJson) (hfrequency : ∀ f : Frequency, p f.toJson)
    (hperiod : ∀ l : Period, p l.toJson)
    (hattributes : p (.array (e.attributes.map fun a => .object a.members))) :
    ∀ m ∈ e.members, p m.2 := by
  -- The pieces of the members, in the order in which they are written.
  simp only [Event.members, List.forall_mem_append, List.forall_mem_cons]
  refine ⟨⟨⟨⟨⟨⟨hstring _, forall_mem_optional hstring _ _⟩, forall_mem_optional hstring _ _⟩,
    forall_mem_unlessNull hvalue _⟩, ?frequency⟩, ?period⟩, ?attributes⟩
  case frequency =>
    cases e.frequency with
    | none => simp
    | some f => simpa using hfrequency f
  case period =>
    cases e.period with
    | none => simp
    | some l => simpa using hperiod l
  case attributes =>
    split
    · simp
    · simpa using hattributes

theorem Attribute.depth_members (a : Attribute) : depthOfMembers a.members ≤ 0 :=
  depthOfMembers_le_iff.mpr (Attribute.forall_members (p := fun v => v.depth ≤ 0) (fun _ => Nat.le_refl 0)
    fun x _ => Nat.le_of_eq (Scalar.depth_toJson x))

theorem Event.depth_members (e : Event) : depthOfMembers e.members ≤ 2 := by
  refine depthOfMembers_le_iff.mpr (Event.forall_members (p := fun v => v.depth ≤ 2)
    (fun _ => Nat.zero_le 2) ?value (fun _ => ?frequency) (fun _ => ?period) ?attributes)
  case value => rw [Scalar.depth_toJson]; exact Nat.zero_le 2
  case frequency => simp [Frequency.toJson, depth, depthOfMembers, Json.ofInt]
  case period => simp [Period.toJson, depth, depthOfMembers, Json.ofInt]
  case attributes =>
    exact Nat.succ_le_succ (depthOfItems_map_le fun a _ => Nat.succ_le_succ a.depth_members)

theorem Condition.depth_toJson_le (c : Condition) : c.toJson.depth ≤ 3 := by
  cases c with
  | «attribute» a =>
      exact Nat.succ_le_succ (Nat.max_le.mpr ⟨Nat.zero_le 2, Nat.le_trans a.depth_members (by omega)⟩)
  | event e => exact Nat.succ_le_succ (Nat.max_le.mpr ⟨Nat.zero_le 2, e.depth_members⟩)

theorem Attribute.integral_members {a : Attribute} (h : FloatFree a.values) :
    ∀ m ∈ a.members, Integral m.2 :=
  Attribute.forall_members .string fun x hx => Scalar.integral_toJson (h x hx)

theorem Event.integral_members {e : Event} (h : FloatFree e.values) :
    ∀ m ∈ e.members, Integral m.2 := by
  refine Event.forall_members .string (Scalar.integral_toJson (h e.value List.mem_cons_self))
    (fun f => ?frequency) (fun l => ?period) ?attributes
  case frequency =>
    refine .object ?_
    simpa using And.intro (Integral.string f.qualifier) (integral_int64 f.count)
  case period =>
    refine .object ?_
    simpa using And.intro (Integral.string l.unit) (integral_int64 l.length)
  case attributes =>
    exact integral_map fun a ha => .object (Attribute.integral_members (h.of_attribute ha))

theorem Condition.integral_toJson {c : Condition} (h : FloatFree c.values) :
    Integral c.toJson := by
  cases c with
  | «attribute» a =>
      exact .object (List.forall_mem_cons.mpr ⟨.string _, Attribute.integral_members h⟩)
  | event e => exact .object (List.forall_mem_cons.mpr ⟨.string _, Event.integral_members h⟩)

/-! ## Strict reading of what was written -/

theorem Condition.decode_toJson {room : Nat} (hroom : 2 ≤ room) {c : Condition}
    (h : FloatFree c.values) : Condition.decode room (.ofJson c.toJson) = .ok c := by
  have hdepth : c.toJson.depth ≤ room + 1 := Nat.le_trans c.depth_toJson_le (Nat.succ_le_succ hroom)
  have hdraft : (Draft.record room).decode (.ofJson c.toJson) = .ok (.ofCondition c) :=
    c.decode_draft hdepth _
  simp only [Condition.decode, hdraft, bind, Except.bind, Condition.classify_draft h]
  rfl

theorem Group.decode_toJson {g : Group} (h : ∀ c ∈ g.conditions, FloatFree c.values) :
    Group.record.decode (.ofJson g.toJson) = .ok g := by
  have hconditions : decodeList (Condition.decode (maxDepth - 5))
      (.ofJson (.array (g.conditions.map (·.toJson)))) = .ok g.conditions :=
    decodeList_self fun c hc => Condition.decode_toJson (by decide) (h c hc)
  rw [Group.toJson, Reading.ofJson]
  refine Record.decodeWith_members Group.distinct (by simp [Group.record, Field.plain]) (by simp) ?_
  simp [Record.fill, Group.record, bind, Except.bind, pure, Except.pure, hconditions]

theorem Tree.decode_toJson {t : Tree} (h : FloatFree t.values) :
    Tree.record.decode (.ofJson t.toJson) = .ok t := by
  have hconditions : decodeList (Condition.decode (maxDepth - 3))
      (.ofJson (.array (t.conditions.map (·.toJson)))) = .ok t.conditions :=
    decodeList_self fun c hc => Condition.decode_toJson (by decide) (h.of_condition hc)
  have hgroups : decodeList Group.record.decode (.ofJson (.array (t.groups.map (·.toJson))))
      = .ok t.groups :=
    decodeList_self fun g hg => Group.decode_toJson fun c hc => h.of_group hg hc
  rw [Tree.toJson, Reading.ofJson]
  refine Record.decodeWith_members Tree.distinct (by simp [Tree.record, Field.plain]) (by simp) ?_
  simp [Record.fill, Tree.record, bind, Except.bind, pure, Except.pure, hconditions, hgroups]

theorem Group.integral_toJson {g : Group} (h : ∀ c ∈ g.conditions, FloatFree c.values) :
    Integral g.toJson := by
  refine .object ?_
  simp only [List.forall_mem_cons]
  exact ⟨.string _, integral_map fun c hc => Condition.integral_toJson (h c hc), by simp⟩

theorem Tree.integral_toJson {t : Tree} (h : FloatFree t.values) : Integral t.toJson := by
  refine .object ?_
  simp only [List.forall_mem_cons]
  exact ⟨integral_map fun c hc => Condition.integral_toJson (h.of_condition hc),
    integral_map fun g hg => Group.integral_toJson fun c hc => h.of_group hg hc, .string _, by simp⟩

theorem Group.depth_toJson_le (g : Group) : g.toJson.depth ≤ 5 := by
  have hconditions : depthOfItems (g.conditions.map (·.toJson)) ≤ 3 :=
    depthOfItems_map_le fun c _ => c.depth_toJson_le
  simp only [Group.toJson, depth, depthOfMembers]
  omega

theorem Tree.depth_toJson_le (t : Tree) : t.toJson.depth ≤ 7 := by
  have hconditions : depthOfItems (t.conditions.map (·.toJson)) ≤ 3 :=
    depthOfItems_map_le fun c _ => c.depth_toJson_le
  have hgroups : depthOfItems (t.groups.map (·.toJson)) ≤ 5 :=
    depthOfItems_map_le fun g _ => g.depth_toJson_le
  simp only [Tree.toJson, depth, depthOfMembers]
  omega

/-! ## Lenient reading of what was written -/

theorem Condition.ofJson?_toJson {c : Condition} (h : FloatFree c.values) :
    Condition.ofJson? c.toJson = some c := by
  have hdraft : (Draft.record c.toJson.depth).decodeRead (.ofJson c.toJson) = .ok (.ofCondition c) :=
    c.decode_draft (Nat.le_succ _) _
  rw [Condition.ofJson?, Draft.ofJson?, hdraft]
  show (Draft.ofCondition c).classify.toOption = some c
  rw [Condition.classify_draft h]
  rfl

theorem conditionsOf_map {cs : List Condition} (h : ∀ c ∈ cs, FloatFree c.values) :
    conditionsOf (some (.array (cs.map (·.toJson)))) = cs :=
  filterMap_map_eq_self fun c hc => Condition.ofJson?_toJson (h c hc)

theorem logicOf_name (l : Logic) : logicOf (some (.string l.name)) = l := by
  simp only [logicOf, Option.bind_some, Json.string?, Option.map_some, Option.getD_some, l.parse_name]

theorem Group.ofJson?_toJson {g : Group} (h : ∀ c ∈ g.conditions, FloatFree c.values) :
    Group.ofJson? g.toJson = some g := by
  have hoperator : g.toJson.member? "operator" = some (.string g.logic.name) := rfl
  have hconditions : g.toJson.member? "conditions" = some (.array (g.conditions.map (·.toJson))) := rfl
  have hobject : g.toJson.isObject = true := rfl
  rw [Group.ofJson?, if_pos hobject, hoperator, hconditions, logicOf_name, conditionsOf_map h]

theorem Tree.ofJson_toJson {t : Tree} (h : FloatFree t.values) : Tree.ofJson t.toJson = t := by
  have hconditions : t.toJson.member? "conditions" = some (.array (t.conditions.map (·.toJson))) := rfl
  have hgroups : t.toJson.member? "condition_groups" = some (.array (t.groups.map (·.toJson))) := rfl
  have hlogic : t.toJson.member? "logic_operator" = some (.string t.logic.name) := rfl
  rw [Tree.ofJson, hconditions, hgroups, hlogic, conditionsOf_map fun c hc => h.of_condition hc,
    Option.some_or, Option.some_or, logicOf_name]
  show Tree.mk _ ((t.groups.map (·.toJson)).filterMap Group.ofJson?) _ = t
  rw [filterMap_map_eq_self fun g hg => Group.ofJson?_toJson fun c hc => h.of_group hg hc]

theorem groupsAreObjects_sorted (t : Tree) : GroupsAreObjects t.toJson.sorted := by
  intro key hkey items hitems w hw
  -- Only one of the members that were written has either of the names.
  have hgiven := mem_of_mem_sortMembers (mem_of_member? hitems)
  have hgroups : Json.array items = (Json.array (t.groups.map (·.toJson))).sorted := by
    simp only [sortedMembers, List.mem_cons, Prod.mk.injEq, List.not_mem_nil, or_false] at hgiven
    rcases hgiven with ⟨rfl, -⟩ | ⟨-, heq⟩ | ⟨rfl, -⟩
    · simp at hkey
    · exact heq
    · simp at hkey
  rw [Json.sorted, sortedItems_eq_map, List.map_map] at hgroups
  obtain rfl := Json.array.inj hgroups
  obtain ⟨g, -, rfl⟩ := List.mem_map.mp hw
  rfl

theorem Tree.ofJson_sorted {t : Tree} (h : FloatFree t.values) : Tree.ofJson t.toJson.sorted = t := by
  have hread := toJson_ofJson maxDepth t.toJson (Nat.le_trans t.depth_toJson_le (by decide))
  exact Tree.ofJson_of_decode hread rfl (groupsAreObjects_sorted t) (Tree.decode_toJson h)

theorem Tree.ofText_compact {t : Tree} (h : FloatFree t.values) :
    Tree.ofText t.toJson.compact = t := by
  have hread : Json.parse t.toJson.compact = .ok t.toJson.sorted :=
    parse_compact (Tree.integral_toJson h) (Nat.le_trans t.depth_toJson_le (by decide))
  rw [Tree.ofText, hread]
  exact Tree.ofJson_sorted h

/-- **Criteria are read back.** What was written of criteria without floating-point numbers, the strict reader
reads from the text as those criteria, and so does the lenient reader from the value, with its members as they
were written or sorted by key, and from the text. -/
theorem Tree.read_toJson {t : Tree} (h : FloatFree t.values) :
    Tree.parse t.toJson.compact = .ok t ∧ Tree.ofJson t.toJson = t ∧
      Tree.ofJson t.toJson.sorted = t ∧ Tree.ofText t.toJson.compact = t := by
  have hstrict : Tree.parse t.toJson.compact = .ok t :=
    decodeText_compact (Tree.integral_toJson h) (Tree.decode_toJson h)
  exact ⟨hstrict, Tree.ofJson_toJson h, Tree.ofJson_sorted h, Tree.ofText_compact h⟩

/-- Large orders paid in several ways, repeated within a window, from people of a city. -/
def Tree.repeatedOrders : Tree where
  conditions := [.event ⟨"purchase", none, some "greater_than", .int 500, some ⟨"at_least", 3⟩,
    some ⟨"days", 90⟩, [⟨none, some "payment_mode", some "equals", .text "a \"b\" \\ c", .null⟩]⟩]
  groups := [⟨.or, [.attribute ⟨some "customers", some "city", some "equals", .text "", .bool true⟩]⟩]
  logic := .or

theorem Tree.read_toJson_repeatedOrders :
    Tree.parse repeatedOrders.toJson.compact = .ok repeatedOrders ∧
      Tree.ofJson repeatedOrders.toJson = repeatedOrders ∧
      Tree.ofJson repeatedOrders.toJson.sorted = repeatedOrders ∧
      Tree.ofText repeatedOrders.toJson.compact = repeatedOrders :=
  Tree.read_toJson (by unfold FloatFree; decide)

end Criteria

end Audience
