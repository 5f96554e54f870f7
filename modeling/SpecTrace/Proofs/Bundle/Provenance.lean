import SpecTrace.Proofs.Bundle.Invariants

/-! Which pointers have a record, and that no walk forgets one. -/

namespace SpecTrace

open Relation

namespace Provenance

/-- An origin is recorded at a pointer. -/
def Records (tree : Provenance) (p : Pointer) : Prop :=
  p ∈ tree.records.map Prod.fst

/-- The records below segments are those of the trees there. -/
theorem mem_childRecords_iff {children : List (String × Provenance)} {p : Pointer}
    {origin : Origin} :
    (p, origin) ∈ childRecords children ↔
      ∃ segment child rest, (segment, child) ∈ children ∧ p = segment :: rest ∧
        (rest, origin) ∈ child.records := by
  -- By induction on the trees.
  induction children with
  | nil => simp [childRecords]
  | cons first others ih =>
    rcases first with ⟨name, tree⟩
    rw [childRecords, List.mem_append, ih, List.mem_map]
    -- The first tree has the record, or one of the others does.
    constructor
    · rintro (⟨⟨q, held⟩, inside, same⟩ | ⟨segment, child, rest, later, rfl, inside⟩)
      · cases same
        exact ⟨name, tree, q, List.mem_cons_self, rfl, inside⟩
      · exact ⟨segment, child, rest, List.mem_cons_of_mem _ later, rfl, inside⟩
    · rintro ⟨segment, child, rest, member, rfl, inside⟩
      rcases List.mem_cons.mp member with same | later
      · cases same
        exact Or.inl ⟨(rest, origin), inside, rfl⟩
      · exact Or.inr ⟨segment, child, rest, later, rfl, inside⟩

/-- Below a segment, the pointers that the trees below it record are recorded. -/
theorem mem_childRecords {children : List (String × Provenance)} {p : Pointer} :
    p ∈ (childRecords children).map Prod.fst ↔
      ∃ segment child rest, (segment, child) ∈ children ∧ p = segment :: rest ∧
        child.Records rest := by
  -- A pointer is recorded if it has any origin.
  rw [List.mem_map]
  constructor
  · rintro ⟨⟨q, origin⟩, inside, rfl⟩
    obtain ⟨segment, child, rest, member, rfl, recorded⟩ := mem_childRecords_iff.mp inside
    exact ⟨segment, child, rest, member, rfl, List.mem_map_of_mem recorded⟩
  · rintro ⟨segment, child, rest, member, rfl, recorded⟩
    obtain ⟨⟨q, origin⟩, inside, rfl⟩ := List.mem_map.mp recorded
    exact ⟨_, mem_childRecords_iff.mpr ⟨segment, child, q, member, rfl, inside⟩, rfl⟩

/-- The root of a tree is recorded if it has an origin, other pointers if one of the trees below
records what is left of them. -/
theorem records_node {here : Option Origin} {children : List (String × Provenance)} {p : Pointer} :
    (node here children).Records p ↔
      (p = [] ∧ here.isSome) ∨ ∃ segment child rest, (segment, child) ∈ children ∧
        p = segment :: rest ∧ child.Records rest := by
  rw [Records, records, List.map_append, List.mem_append, mem_childRecords]
  -- An origin at the root is one record.
  cases here <;> simp

/-- What was recorded last is recorded. -/
theorem records_insert_self (tree : Provenance) (p : Pointer) (origin : Origin) :
    (tree.insert p origin).Records p := by
  -- By induction on the pointer, down the tree.
  induction p generalizing tree with
  | nil =>
    cases tree
    rw [insert, records_node]
    exact Or.inl ⟨rfl, rfl⟩
  | cons segment rest ih =>
    cases tree
    rw [insert, records_node]
    -- The tree below the segment is stored again with the new record.
    exact Or.inr ⟨segment, _, rest, lookupMember?_mem (lookupMember?_insertMember_self _ _ _), rfl,
      ih _⟩

/-- What was recorded stays recorded. -/
theorem Records.insert {tree : Provenance} {q : Pointer} (recorded : tree.Records q)
    (p : Pointer) (origin : Origin) : (tree.insert p origin).Records q := by
  -- By induction on the pointer that is recorded anew.
  induction p generalizing tree q with
  | nil =>
    cases tree
    rw [Provenance.insert, records_node]
    rcases records_node.mp recorded with ⟨root, _⟩ | below
    · exact Or.inl ⟨root, rfl⟩
    · exact Or.inr below
  | cons segment rest ih =>
    cases tree with
    | node here children =>
      rw [Provenance.insert, records_node]
      rcases records_node.mp recorded with root | ⟨name, child, behind, member, rfl, inner⟩
      · -- The origin of the root stays.
        exact Or.inl root
      · refine Or.inr ?_
        rcases mem_insertMember member segment
          (((lookupMember? children segment).getD empty).insert rest origin) with kept | found
        · exact ⟨name, child, behind, kept, rfl, inner⟩
        · -- The tree in which the new record goes had this one.
          obtain ⟨rfl, held⟩ := found
          refine ⟨name, _, behind,
            lookupMember?_mem (lookupMember?_insertMember_self _ _ _), rfl, ?_⟩
          rw [held]
          exact ih inner

end Provenance

/-- No step forgets a record. -/
theorem BundleStep.records {context : BundleContext} {s t : BundleState} {p : Pointer}
    (step : BundleStep context s t) (recorded : s.provenance.Records p) :
    t.provenance.Records p := by
  cases step with
  | read _ => exact recorded
  -- Recording and reserving add records, and the other steps touch none.
  | record pointer source => exact recorded.insert _ _
  | reserve _ _ _ => exact recorded.insert _ _
  | fill _ _ => exact recorded

/-- No run forgets a record. -/
theorem BundleSteps.records {context : BundleContext} {s t : BundleState} {p : Pointer}
    (steps : BundleSteps context s t) (recorded : s.provenance.Records p) :
    t.provenance.Records p := by
  -- By induction on the run.
  induction steps with
  | refl => exact recorded
  | tail _ step ih => exact step.records ih

/-- Every destination is recorded. -/
def BundleState.Recorded (s : BundleState) : Prop :=
  ∀ relocation ∈ s.relocations, s.provenance.Records relocation.destination

/-- A step records the destination that it reserves and forgets none. -/
theorem BundleStep.recorded {context : BundleContext} {s t : BundleState}
    (step : BundleStep context s t) (recorded : s.Recorded) : t.Recorded := by
  intro relocation member
  cases step with
  | read loaded => exact recorded relocation member
  | record pointer source => exact (recorded relocation member).insert _ _
  | reserve named new free =>
    simp only [BundleState.reserve, List.mem_append, List.mem_singleton] at member
    -- The destination is an old one, or the one that is reserved and recorded now.
    rcases member with member | rfl
    · exact (recorded relocation member).insert _ _
    · exact Provenance.records_insert_self _ _ _
  | fill source content =>
    -- Filling in content moves no destination.
    obtain ⟨former, present, _, same⟩ := mem_fill member
    rw [← same]
    exact recorded former present

/-- A run records every destination that it reserves. -/
theorem BundleSteps.recorded {context : BundleContext} {s t : BundleState}
    (steps : BundleSteps context s t) (recorded : s.Recorded) : t.Recorded := by
  induction steps with
  | refl => exact recorded
  | tail _ step ih => exact step.recorded ih

end SpecTrace
