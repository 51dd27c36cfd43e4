set_option autoImplicit false

/-! # JSON values

The values that JSON texts stand for. An integer literal within 64 bits, signed or unsigned, stays an
integer; every other number is a floating-point number. Members of an object are kept as a list: a
value that was read has them sorted by key, one for each key, while a value that is about to be
written has them in the order of writing. -/

namespace Audience

namespace Json

/-- A number of JSON. -/
inductive Number where
  | integer (n : Int)
  | real (x : Float)
  deriving DecidableEq

end Json

/-- A JSON value. -/
inductive Json where
  | null
  | bool (b : Bool)
  | number (n : Json.Number)
  | string (s : String)
  | array (items : List Json)
  | object (members : List (String × Json))

namespace Json

instance : Inhabited Json :=
  ⟨.null⟩

/-- Put a member among members sorted by key; a member of the same key gives way. -/
def insertMember (key : String) (value : Json) : List (String × Json) → List (String × Json)
  | [] => [(key, value)]
  | (k, v) :: rest =>
    if key = k then (key, value) :: rest
    else if key < k then (key, value) :: (k, v) :: rest
    else (k, v) :: insertMember key value rest

/-- Members sorted by key, where the last member of a key counts. -/
def sortMembers (members : List (String × Json)) : List (String × Json) :=
  members.foldl (fun sorted m => insertMember m.1 m.2 sorted) []

/-- The members of an object; nothing else has members. -/
def members? : Json → Option (List (String × Json))
  | .object members => some members
  | _ => none

/-- The items of an array; nothing else has items. -/
def items? : Json → Option (List Json)
  | .array items => some items
  | _ => none

/-- The text of a string value. -/
def string? : Json → Option String
  | .string s => some s
  | _ => none

/-- The member of a given key; what is no object has none. -/
def member? (key : String) (value : Json) : Option Json :=
  value.members?.bind fun members => members.lookup key

mutual

/-- How many containers are nested in one another. -/
def depth : Json → Nat
  | .array items => depthOfItems items + 1
  | .object members => depthOfMembers members + 1
  | _ => 0

/-- The depth of the deepest item. -/
def depthOfItems : List Json → Nat
  | [] => 0
  | v :: rest => max v.depth (depthOfItems rest)

/-- The depth of the deepest member. -/
def depthOfMembers : List (String × Json) → Nat
  | [] => 0
  | (_, v) :: rest => max v.depth (depthOfMembers rest)

end

/-- Whether a value is an object. -/
def isObject (value : Json) : Bool :=
  value.members?.isSome

/-- The number written as an integer. -/
def ofInt (n : Int) : Json :=
  .number (.integer n)

end Json

end Audience
