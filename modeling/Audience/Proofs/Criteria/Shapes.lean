import Audience.Proofs.Criteria.Lenient
import Audience.Proofs.Json.Fields

set_option autoImplicit false

/-! # The shapes of criteria

The strict reader takes an array for a tree, a group or a condition as well as an object: it holds the values
of the fields in their order then. Nothing else passes for one of the three, and every condition says what
kind it is of, by its type or by a field of that kind. So what is read strictly is written as criteria are
meant to be exactly if the tree, its groups and its conditions are objects (`Tree.shapely_iff_objects`). -/

namespace Audience.Criteria

open Json

/-! ## Parts of a reading -/

/-- The groups that are given in a tree, under either of their names. -/
def groupsIn (root : Reading) : List Reading :=
  Tree.record.listed root "condition_groups"

/-- The conditions that are given in a tree, at its root and in its groups. -/
def conditionsIn (root : Reading) : List Reading :=
  Tree.record.listed root "conditions" ++
    (groupsIn root).flatMap fun g => Group.record.listed g "conditions"

/-- What a condition is given for a field. The fields of a condition are the same however much room there is. -/
def conditionValue? (c : Reading) (name : String) : Option Reading :=
  (Draft.record maxDepth).valueFor? c name

/-- Whether a condition is given a text for a field. -/
def saysText (c : Reading) (name : String) : Bool :=
  match conditionValue? c name with
  | some (.string _) => true
  | _ => false

/-- Whether a condition is given a type that there is, in whatever case and with blanks around it, or with no
type or a null one, an event or a field. -/
def saysKind (c : Reading) : Bool :=
  match conditionValue? c "type" with
  | some (.string kind) => Text.asciiLowered (Text.trimmed kind) ∈ ["event", "attribute"]
  | some .null | none => saysText c "event_name" || saysText c "field"
  | some _ => false

/-- The readings of which a tree is made: its own, and those of its groups and its conditions. -/
def partsIn (root : Reading) : List Reading :=
  root :: (groupsIn root ++ conditionsIn root)

/-- Whether a tree has the shape of one: it, its groups and its conditions are written in a certain way, and
every condition says its kind. -/
structure Shapely (written : Reading → Bool) (root : Reading) : Prop where
  tree : written root = true
  groups : ∀ g ∈ groupsIn root, written g = true
  conditions : ∀ c ∈ conditionsIn root, written c = true ∧ saysKind c = true

/-! ## Kinds of conditions -/

theorem decodeOptionString_eq_ok_iff {x : Reading} {o : Option String} :
    decodeOption decodeString x = .ok o ↔
      (x = .null ∧ o = none) ∨ ∃ s, x = .string s ∧ o = some s := by
  cases x <;> simp [decodeOption, decodeString, unexpected, mismatch, Except.map, eq_comm]

theorem Draft.distinct (room : Nat) : (Draft.record room).Distinct := by
  have hnames : (Draft.record room).fields.flatMap Field.names =
      (Draft.record 0).fields.flatMap Field.names := rfl
  unfold Record.Distinct
  rw [hnames]
  decide

theorem Draft.record_add (room : Nat) (d : Draft) (name : String) (r : Reading) :
    (Draft.record room).add d name r = (Entry.decode room name r).map d.enter :=
  d.add_eq_map room name r

/-- A text that is a part of a draft by itself. -/
theorem Draft.holds_text {room : Nat} {f : Field} (hf : f ∈ (Draft.record room).fields)
    {get : Draft → Option String} (entry : Option String → Entry)
    (hdecode : ∀ r, Entry.decode room f.name r = (decodeOption decodeString r).map entry)
    (hget : ∀ (d : Draft) (s : Option String), get (d.enter (entry s)) = s)
    (hframe : ∀ (d : Draft) (e : Entry), e.name ≠ f.name → get (d.enter e) = get d) :
    (Draft.record room).Holds f get (decodeOption decodeString) where
  mem := hf
  set d r d' h := by
    obtain ⟨e, he, rfl⟩ := map_eq_ok_iff.mp (Draft.record_add room d f.name r ▸ h)
    obtain ⟨s, hs, rfl⟩ := map_eq_ok_iff.mp (hdecode r ▸ he)
    rw [hget]
    exact hs
  frame g hg hne d r d' h := by
    obtain ⟨e, he, rfl⟩ := map_eq_ok_iff.mp (Draft.record_add room d g.name r ▸ h)
    exact hframe d e (Entry.name_of_decode he ▸ hne)

variable {room : Nat} {r : Reading} {d : Draft}

theorem Draft.holds_kind :
    (Draft.record room).Holds ⟨"type", [], false⟩ Draft.kind (decodeOption decodeString) :=
  Draft.holds_text (by simp [Draft.record]) .kind (fun _ => rfl) (fun _ _ => rfl) fun d e hne => by
    cases e <;> first | rfl | exact absurd rfl hne

theorem Draft.holds_eventName :
    (Draft.record room).Holds ⟨"event_name", [], false⟩ Draft.eventName (decodeOption decodeString) :=
  Draft.holds_text (by simp [Draft.record]) .eventName (fun _ => rfl) (fun _ _ => rfl) fun d e hne => by
    cases e <;> first | rfl | exact absurd rfl hne

theorem Draft.holds_field :
    (Draft.record room).Holds ⟨"field", [], false⟩ Draft.field (decodeOption decodeString) :=
  Draft.holds_text (by simp [Draft.record]) .field (fun _ => rfl) (fun _ _ => rfl) fun d e hne => by
    cases e <;> first | rfl | exact absurd rfl hne

/-- A text that is a part of a draft was given for its field. Without one, the field was not given, or was
given as a null. -/
theorem Draft.conditionValue?_cases {f : Field} {get : Draft → Option String}
    (hholds : (Draft.record room).Holds f get (decodeOption decodeString))
    (hstart : get Draft.empty = none) (hread : (Draft.record room).decode r = .ok d) :
    (get d = none ∧ (conditionValue? r f.name = none ∨ conditionValue? r f.name = some .null)) ∨
      ∃ s, get d = some s ∧ conditionValue? r f.name = some (.string s) := by
  rcases hholds.valueFor?_cases (Draft.distinct room) hread with ⟨hnone, hget⟩ | ⟨x, hsome, hx⟩
  · exact .inl ⟨hget.trans hstart, .inl hnone⟩
  · rcases decodeOptionString_eq_ok_iff.mp hx with ⟨rfl, hget⟩ | ⟨s, rfl, hget⟩
    · exact .inl ⟨hget, .inr hsome⟩
    · exact .inr ⟨s, hget, hsome⟩

theorem saysText_of_holds {f : Field} {get : Draft → Option String}
    (hholds : (Draft.record room).Holds f get (decodeOption decodeString))
    (hstart : get Draft.empty = none) (hread : (Draft.record room).decode r = .ok d) {s : String}
    (hs : get d = some s) : saysText r f.name = true := by
  rcases Draft.conditionValue?_cases hholds hstart hread with ⟨hget, -⟩ | ⟨k, -, hvalue⟩
  · rw [hs] at hget
    cases hget
  · rw [saysText, hvalue]

theorem Draft.classify_cases {c : Condition} (h : d.classify = .ok c) :
    (∃ k, d.kind = some k ∧ Text.asciiLowered (Text.trimmed k) ∈ ["event", "attribute"]) ∨
      d.kind = none ∧ ((∃ s, d.eventName = some s) ∨ ∃ s, d.field = some s) := by
  rw [Draft.classify] at h
  split at h
  · next kind hkind =>
    obtain ⟨k, hk, rfl⟩ := Option.map_eq_some_iff.mp hkind
    refine .inl ⟨k, hk, ?_⟩
    split at h
    · next hevent => simp [hevent]
    · split at h
      · next hattribute => simp [hattribute]
      · cases h
  · next hkind =>
    refine .inr ⟨Option.map_eq_none_iff.mp hkind, ?_⟩
    split at h
    · next hevent => exact .inl (Option.isSome_iff_exists.mp hevent)
    · split at h
      · next hfield => exact .inr (Option.isSome_iff_exists.mp hfield)
      · cases h

/-- A condition that can be read says what kind of condition it is. -/
theorem saysKind_of_decode {c : Condition} (h : Condition.decode room r = .ok c) :
    r.isRecord = true ∧ saysKind r = true := by
  obtain ⟨d, hd, hclass⟩ := bind_eq_ok_iff.mp h
  refine ⟨Record.isRecord_of_decodeWith hd, ?_⟩
  have hclassified : ∃ c, d.classify = .ok c := by
    cases hc : d.classify with
    | ok c => exact ⟨c, rfl⟩
    | error e =>
        rw [hc] at hclass
        cases hclass
  obtain ⟨c, hc⟩ := hclassified
  rcases Draft.classify_cases hc with ⟨k, hk, hknown⟩ | ⟨hnone, hother⟩
  · rcases Draft.conditionValue?_cases Draft.holds_kind rfl hd with ⟨hget, -⟩ | ⟨s, hget, hvalue⟩
    · rw [hk] at hget
      cases hget
    · rw [hk] at hget
      obtain rfl := Option.some.inj hget
      simp only [saysKind, hvalue, decide_eq_true_eq]
      exact hknown
  · have hnamed : (saysText r "event_name" || saysText r "field") = true := by
      rw [Bool.or_eq_true]
      exact hother.imp (fun ⟨s, hs⟩ => saysText_of_holds Draft.holds_eventName rfl hd hs)
        fun ⟨s, hs⟩ => saysText_of_holds Draft.holds_field rfl hd hs
    rcases Draft.conditionValue?_cases Draft.holds_kind rfl hd with ⟨-, hvalue⟩ | ⟨s, hget, -⟩
    · rcases hvalue with hvalue | hvalue <;> simp only [saysKind, hvalue, hnamed]
    · rw [hnone] at hget
      cases hget

/-! ## Trees -/

section

variable {root : Reading} {t : Tree}

/-- The groups of a tree are read from the groups in its reading, one by one. -/
theorem Tree.decodeItems_groupsIn (h : Tree.record.decode root = .ok t) :
    decodeItems Group.record.decode (groupsIn root) = .ok t.groups :=
  Tree.holds_groups.decodeItems_listed Tree.distinct rfl h

/-- So are its conditions and those of its groups. -/
theorem Tree.decode_of_mem_conditionsIn (h : Tree.record.decode root = .ok t) {c : Reading}
    (hc : c ∈ conditionsIn root) : ∃ room condition, Condition.decode room c = .ok condition := by
  rcases List.mem_append.mp hc with hc | hc
  · have hitems := Tree.holds_conditions.decodeItems_listed Tree.distinct rfl h
    obtain ⟨condition, -, hread⟩ := exists_of_mem_decodeItems hitems hc
    exact ⟨_, condition, hread⟩
  · obtain ⟨g, hg, hc⟩ := List.mem_flatMap.mp hc
    obtain ⟨group, -, hgroup⟩ := exists_of_mem_decodeItems (Tree.decodeItems_groupsIn h) hg
    have hitems := Group.holds_conditions.decodeItems_listed Group.distinct rfl hgroup
    obtain ⟨condition, -, hread⟩ := exists_of_mem_decodeItems hitems hc
    exact ⟨_, condition, hread⟩

theorem Tree.shapely_of_decode (h : Tree.record.decode root = .ok t) :
    Shapely Reading.isRecord root where
  tree := Record.isRecord_of_decodeWith h
  groups g hg := by
    obtain ⟨group, -, hgroup⟩ := exists_of_mem_decodeItems (Tree.decodeItems_groupsIn h) hg
    exact Record.isRecord_of_decodeWith hgroup
  conditions c hc := by
    obtain ⟨room, condition, hread⟩ := Tree.decode_of_mem_conditionsIn h hc
    exact saysKind_of_decode hread

end

/-- **What is read strictly has the shape of a tree.** It, its groups and its conditions are objects or
arrays, and each of the conditions says its kind. So it is written as trees are meant to be exactly if all of
these are objects. -/
theorem Tree.shapely_iff_objects {text : String} {t : Tree} (h : Tree.parse text = .ok t) :
    Shapely Reading.isRecord (readDocument text).root ∧
      (Shapely Reading.isObject (readDocument text).root ↔
        ∀ r ∈ partsIn (readDocument text).root, r.isObject = true) := by
  obtain ⟨-, hdecode⟩ := decodeText_eq_ok_iff.mp h
  have hshape := Tree.shapely_of_decode hdecode
  refine ⟨hshape, fun hobjects r hr => ?_, fun hobjects => ?_⟩
  · rcases List.mem_cons.mp hr with rfl | hr
    · exact hobjects.tree
    · rcases List.mem_append.mp hr with hg | hc
      · exact hobjects.groups r hg
      · exact (hobjects.conditions r hc).1
  · obtain ⟨htree, hparts⟩ := List.forall_mem_cons.mp hobjects
    obtain ⟨hgroups, hconditions⟩ := List.forall_mem_append.mp hparts
    exact ⟨htree, hgroups, fun c hc => ⟨hconditions c hc, (hshape.conditions c hc).2⟩⟩

/-- A tree with a condition that says its type, beside a group with two that do not. -/
def mixedTree : Json :=
  .object [("conditionGroups", .array [.object [("conditions", .array [
      .object [("event_name", .string "visit"), ("type", .null)],
      .object [("field", .string "gender"), ("value", .string "F")]])]]),
    ("conditions", .array [.object [("type", .string " EVENT ")]])]

theorem integral_mixedTree : Integral mixedTree := by
  have hvisit : Integral (.object [("event_name", .string "visit"), ("type", .null)]) :=
    .object (List.forall_mem_cons.mpr ⟨.string _, List.forall_mem_singleton.mpr .null⟩)
  have hgender : Integral (.object [("field", .string "gender"), ("value", .string "F")]) :=
    .object (List.forall_mem_cons.mpr ⟨.string _, List.forall_mem_singleton.mpr (.string _)⟩)
  have hpurchase : Integral (.object [("type", .string " EVENT ")]) :=
    .object (List.forall_mem_singleton.mpr (.string _))
  have hgroup : Integral (.object [("conditions", .array [
      .object [("event_name", .string "visit"), ("type", .null)],
      .object [("field", .string "gender"), ("value", .string "F")]])]) :=
    .object (List.forall_mem_singleton.mpr (.array
      (List.forall_mem_cons.mpr ⟨hvisit, List.forall_mem_singleton.mpr hgender⟩)))
  exact .object (List.forall_mem_cons.mpr ⟨.array (List.forall_mem_singleton.mpr hgroup),
    List.forall_mem_singleton.mpr (.array (List.forall_mem_singleton.mpr hpurchase))⟩)

theorem Tree.shapely_iff_objects_mixedTree :
    Tree.parse mixedTree.compact =
        .ok ⟨[.event ⟨"purchase", none, none, .null, none, none, []⟩],
          [⟨.and, [.event ⟨"visit", none, none, .null, none, none, []⟩,
            .attribute ⟨none, some "gender", none, .text "F", .null⟩]⟩], .and⟩ ∧
      (conditionsIn (readDocument mixedTree.compact).root).length = 3 ∧
      Shapely Reading.isObject (readDocument mixedTree.compact).root := by
  have hparse : Tree.parse mixedTree.compact = .ok _ := decodeText_compact integral_mixedTree rfl
  have hobjects : ∀ r ∈ partsIn (.ofJson mixedTree), r.isObject = true := by decide
  have hread := readDocument_compact integral_mixedTree
  obtain ⟨-, hiff⟩ := Tree.shapely_iff_objects hparse
  rw [hread] at hiff ⊢
  exact ⟨hparse, rfl, hiff.mpr hobjects⟩

/-- An empty array is read strictly as the empty tree. -/
theorem not_shapely_emptyArray :
    Tree.parse "[]" = .ok .empty ∧ ¬ Shapely Reading.isObject (readDocument "[]").root := by
  have hparse : Tree.parse "[]" = .ok .empty := rfl
  exact ⟨hparse, fun h => by cases h.tree⟩

end Audience.Criteria
