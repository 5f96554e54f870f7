import SpecTrace.Document.Node
import SpecTrace.Pointer

/-! Finding the node at a pointer, and listing all nodes with their pointers. -/

namespace SpecTrace

/-- The number that a segment spells, if it is digits without a leading zero. -/
def canonicalIndex? (segment : String) : Option Nat :=
  match segment.toList with
  | [] => none
  | ['0'] => some 0
  | '0' :: _ => none
  | digits => readDigits? 10 0 digits

/-- The segment of an index. -/
def indexSegment (i : Nat) : String :=
  String.ofList (decimalDigits i)

namespace Node

/-- The child that a segment names. -/
def child? (node : Node) (segment : String) : Option Node :=
  match node with
  | .scalar _ _ => none
  | .sequence items _ => (canonicalIndex? segment).bind (items[·]?)
  | .mapping _ _ => node.get? segment

/-- The node at a pointer. -/
def find? : Node → Pointer → Option Node
  | node, [] => some node
  | node, segment :: rest => (node.child? segment).bind (find? · rest)

mutual

/-- Every node of the tree with its pointer, in document order. -/
def descendants : Node → List (Pointer × Node)
  | .scalar value span => [([], .scalar value span)]
  | .sequence items span => ([], .sequence items span) :: itemDescendants 0 items
  | .mapping entries span => ([], .mapping entries span) :: entryDescendants entries

/-- The nodes in the items of a sequence from an index on. -/
def itemDescendants (index : Nat) : List Node → List (Pointer × Node)
  | [] => []
  | item :: rest =>
    item.descendants.map (fun (p, node) => (indexSegment index :: p, node)) ++
      itemDescendants (index + 1) rest

/-- The nodes in the values of a mapping. -/
def entryDescendants : List (Entry Node) → List (Pointer × Node)
  | [] => []
  | ⟨key, _, value⟩ :: rest =>
    value.descendants.map (fun (p, node) => (key :: p, node)) ++ entryDescendants rest

end

end Node

end SpecTrace
