import SpecTrace.Audit.Fault
import SpecTrace.Path.Name
import SpecTrace.Json.Value
import SpecTrace.Pointer

/-! Where the nodes of a bundle came from: a map from pointers that answers for everything below
a recorded pointer. -/

namespace SpecTrace

/-- A node of a source file. -/
structure Origin where
  file : FilePath
  pointer : Pointer
deriving DecidableEq, Repr

/-- The origin that is some segments below. -/
def Origin.below (origin : Origin) (suffix : Pointer) : Origin :=
  { origin with pointer := origin.pointer ++ suffix }

/-- Origins by the pointers that lead to them. -/
inductive Provenance where
  /-- The origin recorded here, and what is recorded below each segment. -/
  | node (origin : Option Origin) (children : List (String × Provenance))

namespace Provenance

/-- Nothing is recorded. -/
def empty : Provenance := .node none []

/-- The origin recorded at the root. -/
def origin? : Provenance → Option Origin
  | .node origin _ => origin

/-- What is recorded below each segment. -/
def children : Provenance → List (String × Provenance)
  | .node _ children => children

/-- Nothing is recorded. -/
def isEmpty (tree : Provenance) : Bool :=
  tree.origin?.isNone && tree.children.isEmpty

/-- Records an origin at a pointer, in place of the one recorded there before. -/
def insert : Provenance → Pointer → Origin → Provenance
  | .node _ children, [], origin => .node (some origin) children
  | .node here children, segment :: rest, origin =>
    let child := (lookupMember? children segment).getD empty
    .node here (insertMember children segment (child.insert rest origin))

/-- The origin of a pointer: that of the longest recorded pointer which begins it, extended by
the remaining segments. -/
def resolve? : Provenance → Pointer → Option Origin
  | .node here _, [] => here
  | .node here children, segment :: rest =>
    match (lookupMember? children segment).bind (resolve? · rest) with
    | some origin => some origin
    | none => here.map (·.below (segment :: rest))

/-- The origin of a pointer, or the fault that nothing is recorded for it. -/
def resolve (tree : Provenance) (p : Pointer) : Except AuditFault Origin :=
  match tree.resolve? p with
  | some origin => .ok origin
  | none => .error (.noProvenance p.fragment)

mutual

/-- Every recorded pointer with its origin, depth first. -/
def records : Provenance → List (Pointer × Origin)
  | .node here children => (here.toList.map fun origin => ([], origin)) ++ childRecords children

/-- The records below segments. -/
def childRecords : List (String × Provenance) → List (Pointer × Origin)
  | [] => []
  | (segment, child) :: rest =>
    child.records.map (fun (p, origin) => (segment :: p, origin)) ++ childRecords rest

end

/-- An origin as a JSON value. -/
def originJson (origin : Origin) : Json :=
  .object [("file", .string origin.file.text), ("pointer", .string origin.pointer.fragment)]

mutual

/-- The tree as a JSON value, without what is absent. -/
def toJson : Provenance → Json
  | .node here children =>
    let origin := here.toList.map fun origin => ("origin", originJson origin)
    match childrenToJson children with
    | [] => .object origin
    | below => .object (origin ++ [("children", .object below)])

/-- The trees below segments as members of an object. -/
def childrenToJson : List (String × Provenance) → List (String × Json)
  | [] => []
  | (segment, child) :: rest => (segment, child.toJson) :: childrenToJson rest

end

end Provenance

end SpecTrace
