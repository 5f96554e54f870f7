import Mathlib.Data.List.Nodup
import SpecTrace.Proofs.Document.Children
import SpecTrace.Proofs.Document.Reading

/-! Where no mapping repeats a key, every child is the one that its segment names. -/

namespace SpecTrace

/-- Different indices have different segments. -/
theorem indexSegment_inj {i j : Nat} : indexSegment i = indexSegment j ↔ i = j := by
  constructor
  · intro same
    -- A segment spells one index only.
    have spelled := canonicalIndex?_eq_some_iff.mpr same
    rw [canonicalIndex?_eq_some_iff.mpr rfl] at spelled
    exact Option.some.inj spelled
  · intro same
    rw [same]

namespace Node

/-- The items of a sequence stand under the segments of their indices. -/
theorem indexed_keys (index : Nat) (items : List Node) :
    (indexed index items).map Prod.fst = (List.range' index items.length).map indexSegment := by
  induction items generalizing index with
  | nil => rfl
  | cons item rest ih => simp [indexed, List.range'_succ, ih (index + 1)]

/-- Items are children of their sequence, and no others are. -/
theorem mem_indexed {index : Nat} {items : List Node} {child : String × Node}
    (member : child ∈ indexed index items) : child.2 ∈ items := by
  -- The indices do not matter, so the first one is general.
  induction items generalizing index with
  | nil => cases member
  | cons item rest ih =>
    rcases List.mem_cons.mp member with rfl | later
    · exact List.mem_cons_self
    · exact List.mem_cons_of_mem _ (ih later)

variable {node : Node}

/-- No two children stand under one segment. -/
theorem Distinct.keys (distinct : node.Distinct) : (node.children.map Prod.fst).Nodup := by
  cases distinct with
  | scalar => exact List.nodup_nil
  | sequence below =>
    rw [children, indexed_keys]
    -- Indices differ, and so do their segments.
    exact List.Nodup.map (fun i j same => indexSegment_inj.mp same) List.nodup_range'
  | mapping keys below =>
    rw [children, keyed, List.map_map]
    exact keys

/-- Children repeat no keys either. -/
theorem Distinct.child (distinct : node.Distinct) {child : String × Node}
    (member : child ∈ node.children) : child.2.Distinct := by
  -- A child of a sequence stands under an index, and one of a mapping in an entry.
  cases distinct with
  | scalar => cases member
  | sequence below => exact below _ (mem_indexed member)
  | mapping keys below =>
    obtain ⟨entry, inside, rfl⟩ := List.mem_map.mp member
    exact below entry inside

/-- Every child is found under its segment. -/
theorem Distinct.lookup (distinct : node.Distinct) {segment : String} {child : Node}
    (member : (segment, child) ∈ node.children) :
    lookupMember? node.children segment = some child :=
  lookupMember?_of_mem distinct.keys member

/-- Whatever a pointer leads to repeats no keys. -/
theorem Distinct.find? (distinct : node.Distinct) {p : Pointer} {inner : Node}
    (found : node.find? p = some inner) : inner.Distinct := by
  -- By induction on the pointer, since each segment leads to a child.
  induction p generalizing node with
  | nil =>
    cases found
    exact distinct
  | cons segment rest ih =>
    rw [find?_cons] at found
    obtain ⟨child, known, below⟩ := Option.bind_eq_some_iff.mp found
    -- The child repeats no keys, and the rest is followed from there.
    exact ih (distinct.child (lookupMember?_mem known)) below

end Node

end SpecTrace
