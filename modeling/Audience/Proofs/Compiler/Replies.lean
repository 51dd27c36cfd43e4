import Audience.Compiler.Generator
import Audience.Proofs.Json.Fields
import Audience.Proofs.Json.Scalar

set_option autoImplicit false

/-! # Trees in replies

A reply is read for the two fields of a rejection before it is read for a tree, and both of them have to be
of their types even in a reply that is no rejection (`Reply.exists_envelope_iff`). So of the replies that do
not say they are rejected, those with a text for their message, or with none, give the tree that the lenient
reader makes of them, whatever else they hold; in place of any other, the sentence is compiled
(`Reply.criteria_iff_saysMessage`). -/

namespace Audience.Reply

open Json (Record Field Reading Decoded decodeBool decodeString Integral)

/-! ## Envelopes -/

theorem Envelope.mem_fields_iff {f : Field} :
    f ∈ Envelope.record.fields ↔ f = .plain "rejected" ∨ f = .plain "message" := by
  simp [Envelope.record]

theorem Envelope.plain : Envelope.record.Plain := by
  intro f hf
  rcases Envelope.mem_fields_iff.mp hf with rfl | rfl <;> rfl

theorem Envelope.distinct : Envelope.record.Distinct := by
  unfold Record.Distinct
  decide

theorem Envelope.add_rejected (e : Envelope) (r : Reading) :
    Envelope.record.add e "rejected" r = (decodeBool r).map fun b => { e with rejected := b } := by
  cases r <;> rfl

/-- Whatever is not the first field is taken for the message. -/
theorem Envelope.add_of_ne (e : Envelope) {name : String} (h : name ≠ "rejected") (r : Reading) :
    Envelope.record.add e name r = (decodeString r).map fun s => { e with message := s } := by
  have hadd : Envelope.record.add e name r = do
      return { e with message := ← decodeString r } := by
    simp only [Envelope.record]
  rw [hadd]
  cases decodeString r <;> rfl

theorem Envelope.add_message (e : Envelope) (r : Reading) :
    Envelope.record.add e "message" r = (decodeString r).map fun s => { e with message := s } :=
  Envelope.add_of_ne e (by decide) r

theorem Envelope.steady : Envelope.record.Steady := by
  intro e e' name r u h
  by_cases hname : name = "rejected"
  · subst hname
    rw [Envelope.add_rejected] at h ⊢
    obtain ⟨b, hb, -⟩ := map_eq_ok_iff.mp h
    exact ⟨_, map_eq_ok_iff.mpr ⟨b, hb, rfl⟩⟩
  · rw [Envelope.add_of_ne _ hname] at h ⊢
    obtain ⟨s, hs, -⟩ := map_eq_ok_iff.mp h
    exact ⟨_, map_eq_ok_iff.mpr ⟨s, hs, rfl⟩⟩

theorem Envelope.holds_rejected :
    Envelope.record.Holds (.plain "rejected") Envelope.rejected decodeBool where
  mem := Envelope.mem_fields_iff.mpr (.inl rfl)
  set e r e' h := by
    obtain ⟨b, hb, rfl⟩ := map_eq_ok_iff.mp (Envelope.add_rejected e r ▸ h)
    exact hb
  frame f _ hne e r e' h := by
    obtain ⟨s, -, rfl⟩ := map_eq_ok_iff.mp (Envelope.add_of_ne e hne r ▸ h)
    rfl

/-! ## Replies without a rejection -/

/-- Whether a value has a text for its message, or has no message. -/
def saysMessage (v : Json) : Bool :=
  (v.member? "message").all (·.string?.isSome)

/-- Whether a value does not say that it is rejected. -/
def KeepsTree (v : Json) : Prop :=
  ∀ w, v.member? "rejected" = some w → w = .bool false

theorem exists_decodeString_ofJson_iff {w : Json} :
    (∃ s, decodeString (.ofJson w) = .ok s) ↔ w.string?.isSome = true := by
  cases w <;> simp [Reading.ofJson, decodeString, Json.unexpected, Json.mismatch, Json.string?]

variable {members : List (String × Json)}

/-- The fields of a rejection are read from an object that does not say it is rejected exactly if its message
is of the type of one. -/
theorem exists_envelope_iff (hordered : Json.Ordered members) (hkept : KeepsTree (.object members)) :
    (∃ e, Envelope.record.decodeRead (.ofJson (.object members)) = .ok e) ↔
      saysMessage (.object members) = true := by
  rw [Record.decodeRead, Record.exists_decodeWith_ofJson_iff Envelope.plain Envelope.steady hordered,
    saysMessage, Option.all_eq_true]
  constructor
  · intro h w hw
    obtain ⟨e, he⟩ := h (.plain "message") (Envelope.mem_fields_iff.mpr (.inr rfl)) w hw
    obtain ⟨s, hs, -⟩ := map_eq_ok_iff.mp (Envelope.add_message _ _ ▸ he)
    exact exists_decodeString_ofJson_iff.mp ⟨s, hs⟩
  · intro h f hf w hw
    rcases Envelope.mem_fields_iff.mp hf with rfl | rfl
    · rw [hkept w hw]
      exact ⟨_, rfl⟩
    · obtain ⟨s, hs⟩ := exists_decodeString_ofJson_iff.mpr (h w hw)
      refine ⟨{ Envelope.record.start with message := s }, ?_⟩
      show Envelope.record.add _ "message" _ = _
      rw [Envelope.add_message, hs]
      rfl

theorem not_rejected_of_keepsTree (hkept : KeepsTree (.object members)) {e : Envelope}
    (h : Envelope.record.decodeRead (.ofJson (.object members)) = .ok e) : e.rejected = false := by
  rcases Envelope.holds_rejected.of_ofJson Envelope.plain Envelope.distinct h with
    ⟨-, hstart⟩ | ⟨w, hw, hdecode⟩
  · exact hstart
  · rw [hkept w hw] at hdecode
    exact (Except.ok.inj hdecode).symm

/-- What is made of the text of an object that does not say it is rejected. -/
theorem parse_of_keepsTree {text : String} {v : Json} (hv : Json.parse text = .ok v)
    (hobject : v.isObject = true) (hkept : KeepsTree v) :
    if saysMessage v then parse text = .ok (.criteria (.ofJson v))
    else ∃ e, parse text = .error e := by
  obtain ⟨-, hroot⟩ := Json.parse_eq_ok_iff.mp hv
  obtain ⟨read, hread⟩ := Json.exists_object_of_isObject hroot hobject
  rw [hread] at hroot
  obtain ⟨n, -, -, given, -, rfl⟩ := Json.toJson_object_eq_ok_iff.mp hroot
  have hordered := Json.ordered_sortMembers given
  have henvelope := exists_envelope_iff hordered hkept
  rw [parse, hv]
  simp only [Json.ofFault, bind, Except.bind, if_pos hobject]
  split
  · next hmessage =>
    obtain ⟨e, he⟩ := henvelope.mpr hmessage
    rw [he]
    simp only [not_rejected_of_keepsTree hkept he]
    rfl
  · next hmessage =>
    cases he : Envelope.record.decodeRead (.ofJson (.object (Json.sortMembers given))) with
    | ok e => exact absurd (henvelope.mp ⟨e, he⟩) hmessage
    | error e => exact ⟨e, rfl⟩

/-- **A tree is kept exactly if its message could be that of a rejection.** Of a reply that is an object and
does not say it is rejected, the tree is the one that the lenient reader makes of the object, and is
compiled, whatever the members of the object are, where its message is a text or there is none. Where the
message is anything else the reply counts for nothing, and the sentence is compiled instead. -/
theorem criteria_iff_saysMessage {text : String} {v : Json} (hv : Json.parse text = .ok v)
    (hobject : v.isObject = true) (hkept : KeepsTree v) :
    (parse text = .ok (.criteria (.ofJson v)) ↔ saysMessage v = true) ∧
      ∀ (c : Compiler) (sentence : String),
        c.compileReply sentence ((parse text).mapError .malformedReply) =
          if saysMessage v then (do return .compiled (← c.compileTree (.ofJson v)))
          else (do return .compiled (← c.compileText sentence)) := by
  have hparse := parse_of_keepsTree hv hobject hkept
  cases hmessage : saysMessage v with
  | true =>
      rw [if_pos hmessage] at hparse
      exact ⟨iff_of_true hparse rfl, fun c sentence => by rw [hparse]; rfl⟩
  | false =>
      rw [if_neg (by simp [hmessage])] at hparse
      obtain ⟨e, he⟩ := hparse
      exact ⟨iff_of_false (by simp [he]) (by simp), fun c sentence => by rw [he]; rfl⟩

/-- A reply with a tree, a rejection that it denies, a text, and members that it need not have. -/
def annotated : Json :=
  .object [("conditions", .array [.object [("event_name", .string "visit")]]), ("confidence", .null),
    ("message", .string "from two mentions"), ("notes", .array [.bool true, .ofInt 2]),
    ("rejected", .bool false)]

theorem integral_annotated : Integral annotated := by
  have hconditions : Integral (.array [.object [("event_name", .string "visit")]]) :=
    .array (List.forall_mem_singleton.mpr (.object (List.forall_mem_singleton.mpr (.string _))))
  have hnotes : Integral (.array [.bool true, .ofInt 2]) :=
    .array (List.forall_mem_cons.mpr ⟨.bool _,
      List.forall_mem_singleton.mpr (Json.integral_ofInt (by decide) (by decide))⟩)
  exact .object (List.forall_mem_cons.mpr ⟨hconditions, List.forall_mem_cons.mpr ⟨.null,
    List.forall_mem_cons.mpr ⟨.string _, List.forall_mem_cons.mpr ⟨hnotes,
      List.forall_mem_singleton.mpr (.bool _)⟩⟩⟩⟩)

theorem criteria_iff_saysMessage_annotated :
    parse annotated.compact =
        .ok (.criteria ⟨[.event ⟨"visit", none, none, .null, none, none, []⟩], [], .and⟩) ∧
      ∀ (c : Compiler) (sentence : String),
        c.compileReply sentence ((parse annotated.compact).mapError .malformedReply) =
          (do return .compiled (← c.compileTree
            ⟨[.event ⟨"visit", none, none, .null, none, none, []⟩], [], .and⟩)) := by
  have hkept : KeepsTree annotated.sorted := by
    intro w hw
    cases hw
    rfl
  obtain ⟨htree, hcompiled⟩ := criteria_iff_saysMessage
    (Json.parse_compact integral_annotated (by decide)) rfl hkept
  exact ⟨htree.mpr rfl, hcompiled⟩

/-- A reply with a tree, and a number for its message. -/
def numbered : Json :=
  .object [("conditions", .array [.object [("field", .string "gender"),
      ("operator", .string "equals"), ("value", .string "F")]]),
    ("message", .ofInt 5)]

theorem integral_numbered : Integral numbered := by
  have hcondition : Integral (.object [("field", .string "gender"), ("operator", .string "equals"),
      ("value", .string "F")]) :=
    .object (List.forall_mem_cons.mpr ⟨.string _, List.forall_mem_cons.mpr ⟨.string _,
      List.forall_mem_singleton.mpr (.string _)⟩⟩)
  exact .object (List.forall_mem_cons.mpr ⟨.array (List.forall_mem_singleton.mpr hcondition),
    List.forall_mem_singleton.mpr (Json.integral_ofInt (by decide) (by decide))⟩)

/-- The lenient reader finds the condition in such a reply, but the reply is taken for no answer. -/
theorem not_criteria_numbered :
    Json.parse numbered.compact = .ok numbered.sorted ∧ numbered.sorted.isObject = true ∧
      numbered.sorted.member? "rejected" = none ∧
      Criteria.Tree.ofJson numbered.sorted =
        ⟨[.attribute ⟨none, some "gender", some "equals", .text "F", .null⟩], [], .and⟩ ∧
      parse numbered.compact ≠ .ok (.criteria (.ofJson numbered.sorted)) ∧
      ∀ (c : Compiler) (sentence : String),
        c.compileReply sentence ((parse numbered.compact).mapError .malformedReply) =
          (do return .compiled (← c.compileText sentence)) := by
  have hv := Json.parse_compact integral_numbered (by decide)
  obtain ⟨e, he⟩ : ∃ e, parse numbered.compact = .error e := by
    rw [parse, hv]
    exact ⟨_, rfl⟩
  refine ⟨hv, rfl, rfl, rfl, by simp [he], fun c sentence => ?_⟩
  rw [he]
  rfl

end Audience.Reply
