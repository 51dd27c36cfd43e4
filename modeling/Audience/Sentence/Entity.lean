import Audience.Scalar
import Audience.Vocabulary.Window

set_option autoImplicit false

/-! # Entities

What a sentence mentions: values of columns, and purchases with how often or for how much. -/

namespace Audience

/-- What is said about an event: how often it happened, or what it amounted to. -/
inductive Measure where
  | performed (qualifier : Qualifier) (count : Int64) (window : Window)
  | amount (operator : String) (value : Scalar) (window : Option Window)
  deriving DecidableEq

/-- Something a sentence mentions. -/
inductive Entity where
  | attribute (dataset field operator : String) (value value2 : Scalar)
  | event (name : String) (measure : Measure)
  deriving DecidableEq

/-- A window as JSON. -/
def Window.toJson (w : Window) : Json :=
  .object [("unit", .string (Term.code w.unit)), ("value", .ofInt w.length.toInt)]

/-- The members of a measure. -/
def Measure.members : Measure → List (String × Json)
  | .performed qualifier count window => [
    ("event_condition_type", .string "performed"),
    ("qualifier", .string (Term.code qualifier)),
    ("count", .ofInt count.toInt),
    ("window", window.toJson)]
  | .amount operator value window => [
    ("event_condition_type", .string "amount"),
    ("operator", .string operator),
    ("value", value.toJson)]
    ++ (window.map fun w => ("window", w.toJson)).toList

/-- An entity as JSON. A second value is left out when it is null. -/
def Entity.toJson : Entity → Json
  | .attribute dataset field operator value value2 => .object <| [
    ("kind", .string "attribute"),
    ("dataset", .string dataset),
    ("field", .string field),
    ("operator", .string operator),
    ("value", value.toJson)]
    ++ if value2.isNull then [] else [("value2", value2.toJson)]
  | .event name measure =>
    .object (("kind", .string "event") :: ("event_name", .string name) :: measure.members)

end Audience
