import Audience.Json.Decode
import Audience.Proofs.Json.Layout
import Audience.Proofs.Outcome
import Audience.Vocabulary.Term

set_option autoImplicit false

/-! # Scalars and lists decoded from what they were written as

Texts, truth values and integers within their bounds are decoded from their own JSON as they were, and so
is a list whose items are (`decodeList_self`). -/

namespace Audience

theorem Logic.parse_name (l : Logic) : Logic.parse l.name = l := by
  cases l <;> decide

@[simp] theorem Logic.decode_ofJson (l : Logic) :
    Logic.decode (.ofJson (.string l.name)) = .ok l :=
  congrArg Except.ok l.parse_name

namespace Json

@[simp] theorem decodeString_ofJson (s : String) : decodeString (.ofJson (.string s)) = .ok s :=
  rfl

@[simp] theorem decodeBool_ofJson (b : Bool) : decodeBool (.ofJson (.bool b)) = .ok b :=
  rfl

theorem decodeBetween_ofJson {low high n : Int} (hlow : low ≤ n) (hhigh : n ≤ high)
    (expected : String) : decodeBetween low high expected (.ofJson (.ofInt n)) = .ok n :=
  if_pos ⟨hlow, hhigh⟩

@[simp] theorem decodeInt64_ofJson (n : Int64) : decodeInt64 (.ofJson (.ofInt n.toInt)) = .ok n := by
  rw [decodeInt64, decodeBetween_ofJson n.minValue_le_toInt n.toInt_le]
  exact congrArg Except.ok (Int64.ofInt_toInt n)

theorem integral_ofInt {n : Int} (hlow : Int64.minValue.toInt ≤ n) (hhigh : n ≤ maxSignificand) :
    Integral (.ofInt n) :=
  .integer ⟨hlow, hhigh⟩

theorem integral_int64 (n : Int64) : Integral (.ofInt n.toInt) := by
  have hmax : Int64.maxValue.toInt ≤ maxSignificand := by decide
  exact integral_ofInt n.minValue_le_toInt (Int.le_trans n.toInt_le hmax)

theorem decodeItems_map {α β : Type} {decode : Reading → Decoded β} {toJson : α → Json} {f : α → β}
    {as : List α} (h : ∀ a ∈ as, decode (.ofJson (toJson a)) = .ok (f a)) :
    decodeItems decode (itemsOfJson (as.map toJson)) = .ok (as.map f) := by
  induction as with
  | nil => rfl
  | cons a rest ih =>
      obtain ⟨hfirst, hrest⟩ := List.forall_mem_cons.mp h
      rw [List.map_cons, itemsOfJson, decodeItems, hfirst, ih hrest]
      rfl

/-- A list is decoded item by item. -/
theorem decodeList_map {α β : Type} {decode : Reading → Decoded β} {toJson : α → Json} {f : α → β}
    {as : List α} (h : ∀ a ∈ as, decode (.ofJson (toJson a)) = .ok (f a)) :
    decodeList decode (.ofJson (.array (as.map toJson))) = .ok (as.map f) := by
  rw [Reading.ofJson, decodeList, decodeItems_map h]
  rfl

/-- A list is decoded as it was written if each of its items is. -/
theorem decodeList_self {α : Type} {decode : Reading → Decoded α} {toJson : α → Json} {as : List α}
    (h : ∀ a ∈ as, decode (.ofJson (toJson a)) = .ok a) :
    decodeList decode (.ofJson (.array (as.map toJson))) = .ok as := by
  have hmap := decodeList_map (f := id) h
  rwa [List.map_id] at hmap

theorem integral_map {α : Type} {toJson : α → Json} {as : List α}
    (h : ∀ a ∈ as, Integral (toJson a)) : Integral (.array (as.map toJson)) := by
  refine .array fun v hv => ?_
  obtain ⟨a, ha, rfl⟩ := List.mem_map.mp hv
  exact h a ha

/-- A text is decoded as what its value is, however that is laid out. -/
theorem decodeText_chars {α : Type} {decode : Reading → Decoded α} (l : Layout) {v : Json} {a : α}
    (hv : Integral v) (h : decode (.ofJson v) = .ok a) :
    decodeText decode (.ofList (l.chars 0 v)) = .ok a := by
  simp only [decodeText, readDocument_chars l hv, h]
  rfl

theorem decodeText_compact {α : Type} {decode : Reading → Decoded α} {v : Json} {a : α}
    (hv : Integral v) (h : decode (.ofJson v) = .ok a) : decodeText decode v.compact = .ok a := by
  have hread := decodeText_chars .compact hv h
  rwa [Layout.chars_compact] at hread

end Json

end Audience
