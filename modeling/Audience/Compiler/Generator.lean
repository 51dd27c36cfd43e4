import Audience.Compiler.Basic

set_option autoImplicit false

/-! # Criteria from a generator

A generator makes criteria of a sentence, or declines to. When it is out of order, or its answer
makes no sense, the sentence is read here instead. -/

namespace Audience

/-- What a generator answers. -/
inductive Reply where
  | criteria (t : Criteria.Tree)
  | rejected (message : String)

/-- Why there is no answer. -/
inductive GeneratorError where
  | unavailable (reason : String)
  | malformedReply (e : Json.DecodeError)

namespace Reply

/-- The part of an answer that says whether it is one. -/
structure Envelope where
  rejected : Bool
  message : String

/-- The fields of an envelope. -/
def Envelope.record : Json.Record Envelope where
  name := "RejectionEnvelope"
  fields := [.plain "rejected", .plain "message"]
  start := ⟨false, ""⟩
  add e name r :=
    match name with
    | "rejected" => do return { e with rejected := ← Json.decodeBool r }
    | _ => do return { e with message := ← Json.decodeString r }

/-- Read an answer: an object that says it was rejected, or holds criteria. -/
def parse (text : String) : Json.Decoded Reply := do
  let value ← Json.ofFault (Json.parse text)
  if value.isObject then
    let envelope ← Envelope.record.decodeRead (.ofJson value)
    return if envelope.rejected then .rejected envelope.message else .criteria (.ofJson value)
  else Json.mismatch (.refused "reply is not a JSON object")

end Reply

/-- What comes of asking a generator: a stored segment, or its refusal. -/
inductive Outcome where
  | compiled (t : Stored.Tree)
  | rejected (message : String)

/-- Compile what a generator answered to a sentence, or else the sentence itself. -/
def Compiler.compileReply (c : Compiler) (text : String) (reply : Except GeneratorError Reply) :
    StateM Mapping.Cache Outcome :=
  match reply with
  | .ok (.criteria t) => do return .compiled (← c.compileTree t)
  | .ok (.rejected message) => pure (.rejected message)
  | .error _ => do return .compiled (← c.compileText text)

end Audience
