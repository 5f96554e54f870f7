import SpecTrace.Json.Number

/-! JSON values whose objects keep the order of their members. -/

namespace SpecTrace

/-- A JSON value. -/
inductive Json where
  | null
  | bool (value : Bool)
  | number (value : JsonNumber)
  | string (value : String)
  | array (items : List Json)
  | object (members : List (String × Json))
deriving Repr, Inhabited, BEq

/-- The value stored under a key in a list of members. -/
def lookupMember? {α : Type} (members : List (String × α)) (key : String) : Option α :=
  (members.find? fun member => member.1 = key).map Prod.snd

/-- Stores a value under a key: in place if the key is there, at the end otherwise. -/
def insertMember {α : Type} : List (String × α) → String → α → List (String × α)
  | [], key, value => [(key, value)]
  | (name, old) :: rest, key, value =>
    if name = key then (name, value) :: rest else (name, old) :: insertMember rest key value

namespace Json

/-- The members, if the value is an object. -/
def members? : Json → Option (List (String × Json))
  | .object members => some members
  | _ => none

/-- The value under a key, if the value is an object that has it. -/
def get? (value : Json) (key : String) : Option Json :=
  match value with
  | .object members => lookupMember? members key
  | _ => none

/-- The text, if the value is a string. -/
def string? : Json → Option String
  | .string text => some text
  | _ => none

end Json

end SpecTrace
