import Audience.Json.Value

set_option autoImplicit false

/-! # Tables of TOML

A document builds its tables piece by piece, and how a table came about decides what may still be
added to it. A header may name a table only once, a dotted key may add only to tables that dotted
keys made, and nothing is added to a value that was written as a whole. -/

namespace Audience.Toml

/-- How a table came about: it was passed through by a header or by a dotted key, or it has a header
of its own. -/
inductive Origin where
  | implied
  | dotted
  | headed
  deriving DecidableEq

/-- What a key of a table stands for: a value, a table, or tables, the last one first. -/
inductive Item where
  | value (v : Json)
  | table (origin : Origin) (members : List (String × Item))
  | tables (elements : List (List (String × Item)))

/-- The keys of a table and what they stand for. -/
abbrev Members := List (String × Item)

/-- Give a key something else to stand for. -/
def Members.replace (key : String) (item : Item) (ms : Members) : Members :=
  ms.map fun m => if m.1 = key then (key, item) else m

/-- Change the table that a path leads to from the table `here`. Tables on the way that do not exist
yet are made with the given origin; of several tables the last one is meant. A dotted key does not
pass through a table that has a header. -/
def within (origin : Origin) (change : Origin → Members → Option Members) (here : Origin) :
    List String → Members → Option Members
  | [], ms => change here ms
  | key :: path, ms =>
    match ms.lookup key with
    | none => do return ms ++ [(key, .table origin (← within origin change origin path []))]
    | some (.table o inner) =>
      if origin = .dotted ∧ o = .headed then none
      else do return Members.replace key (.table o (← within origin change o path inner)) ms
    | some (.tables (last :: earlier)) => do
      return Members.replace key (.tables ((← within origin change .headed path last) :: earlier)) ms
    | some _ => none

/-- Give a dotted key its value. The key has to be new, and the table it is put into too has to be
made by a dotted key. -/
def put (path : List String) (key : String) (v : Json) (ms : Members) : Option Members :=
  let add (here : Origin) (ms : Members) : Option Members :=
    if !path.isEmpty && here != .dotted then none
    else if (ms.lookup key).isSome then none
    else some (ms ++ [(key, .value v)])
  within .dotted add .headed path ms

/-- Open a table with a header. It may have been passed through by other headers before. -/
def openTable (path : List String) (key : String) (ms : Members) : Option Members :=
  let add (_ : Origin) (ms : Members) : Option Members :=
    match ms.lookup key with
    | none => some (ms ++ [(key, .table .headed [])])
    | some (.table .implied inner) => some (Members.replace key (.table .headed inner) ms)
    | some _ => none
  within .implied add .headed path ms

/-- Open one more table of those under one key. -/
def openNext (path : List String) (key : String) (ms : Members) : Option Members :=
  let add (_ : Origin) (ms : Members) : Option Members :=
    match ms.lookup key with
    | none => some (ms ++ [(key, .tables [[]])])
    | some (.tables elements) => some (Members.replace key (.tables ([] :: elements)) ms)
    | some _ => none
  within .implied add .headed path ms

/-- Give a dotted key its value in the table that a header has opened. -/
def putUnder (header path : List String) (key : String) (v : Json) (ms : Members) :
    Option Members :=
  within .implied (fun _ ms => put path key v ms) .headed header ms

mutual

/-- What a key stands for, as a value. -/
def Item.toJson : Item → Json
  | .value v => v
  | .table _ members => .object (Json.sortMembers (membersToJson members))
  | .tables elements => .array (elementsToJson elements).reverse

/-- The members of a table as values. -/
def membersToJson : List (String × Item) → List (String × Json)
  | [] => []
  | (key, item) :: rest => (key, item.toJson) :: membersToJson rest

/-- Tables as values. -/
def elementsToJson : List (List (String × Item)) → List Json
  | [] => []
  | members :: rest => .object (Json.sortMembers (membersToJson members)) :: elementsToJson rest

end

end Audience.Toml
