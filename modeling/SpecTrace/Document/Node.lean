import SpecTrace.Json.Value

/-! The tree of a document, in which every node knows the bytes it was written in. -/

namespace SpecTrace

/-- The bytes from `start` up to and without `stop`. -/
structure Span where
  start : Nat
  stop : Nat
deriving DecidableEq, Repr

/-- A value without children. -/
inductive Scalar where
  | null
  | bool (value : Bool)
  | number (value : JsonNumber)
  | string (value : String)
deriving DecidableEq, Repr

/-- A key of a mapping with what is stored under it. -/
structure Entry (α : Type) where
  key : String
  /-- Where the key was written. -/
  keySpan : Span
  value : α
deriving Repr, BEq

/-- A node and where it was written. -/
inductive Node where
  | scalar (value : Scalar) (span : Span)
  | sequence (items : List Node) (span : Span)
  /-- Keys are distinct, unless the reader was told to let them repeat. -/
  | mapping (entries : List (Entry Node)) (span : Span)
deriving Repr, BEq

namespace Scalar

/-- The scalar as a JSON value. -/
def toJson : Scalar → Json
  | .null => .null
  | .bool value => .bool value
  | .number value => .number value
  | .string value => .string value

end Scalar

namespace Node

/-- Where the node was written. -/
def span : Node → Span
  | .scalar _ span => span
  | .sequence _ span => span
  | .mapping _ span => span

/-- An empty value at a position. -/
def empty (offset : Nat) : Node :=
  .scalar .null ⟨offset, offset⟩

/-- What is stored under a key of a mapping. -/
def get? (node : Node) (key : String) : Option Node :=
  match node with
  | .mapping entries _ => (entries.find? fun entry => entry.key = key).map Entry.value
  | _ => none

mutual

/-- The tree without positions. -/
def toJson : Node → Json
  | .scalar value _ => value.toJson
  | .sequence items _ => .array (itemsToJson items)
  | .mapping entries _ => .object (entriesToJson entries)

/-- The items of a sequence without positions. -/
def itemsToJson : List Node → List Json
  | [] => []
  | item :: rest => item.toJson :: itemsToJson rest

/-- The entries of a mapping without positions. -/
def entriesToJson : List (Entry Node) → List (String × Json)
  | [] => []
  | ⟨key, _, value⟩ :: rest => (key, value.toJson) :: entriesToJson rest

end

mutual

/-- The number of nodes of a tree. -/
def count : Node → Nat
  | .scalar _ _ => 1
  | .sequence items _ => 1 + countItems items
  | .mapping entries _ => 1 + countEntries entries

/-- The number of nodes in the items of a sequence. -/
def countItems : List Node → Nat
  | [] => 0
  | item :: rest => item.count + countItems rest

/-- The number of nodes in the values of a mapping. -/
def countEntries : List (Entry Node) → Nat
  | [] => 0
  | ⟨_, _, value⟩ :: rest => value.count + countEntries rest

end

end Node

end SpecTrace
