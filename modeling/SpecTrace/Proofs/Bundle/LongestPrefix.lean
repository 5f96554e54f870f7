import SpecTrace.Proofs.Bundle.Provenance

/-! A provenance tree is a map from pointers to origins, and it answers for a pointer by the longest
recorded one that begins it. -/

namespace SpecTrace

namespace Provenance

/-- The origin that is recorded at exactly a pointer. -/
def at? : Provenance → Pointer → Option Origin
  | .node here _, [] => here
  | .node _ children, segment :: rest => (lookupMember? children segment).bind (at? · rest)

/-- In the empty tree nothing is recorded. -/
@[simp] theorem at?_empty (p : Pointer) : empty.at? p = none := by
  cases p <;> rfl

/-- What was recorded last at a pointer is what is recorded there. -/
@[simp] theorem at?_insert_self (tree : Provenance) (p : Pointer) (origin : Origin) :
    (tree.insert p origin).at? p = some origin := by
  -- By induction on the pointer, down the tree.
  induction p generalizing tree with
  | nil =>
    cases tree
    rfl
  | cons segment rest ih =>
    cases tree
    simp [insert, at?, ih]

/-- Recording at a pointer changes nothing at others. -/
theorem at?_insert_ne {p q : Pointer} (different : q ≠ p) (tree : Provenance) (origin : Origin) :
    (tree.insert p origin).at? q = tree.at? q := by
  -- By induction on the pointer that is recorded.
  induction p generalizing tree q with
  | nil =>
    cases tree
    cases q with
    | nil => exact absurd rfl different
    | cons _ _ => rfl
  | cons segment rest ih =>
    cases tree with
    | node here children =>
      cases q with
      | nil => rfl
      | cons other behind =>
        -- The pointers part here or further below.
        by_cases branch : other = segment
        · subst branch
          have further : behind ≠ rest := fun same => different (by rw [same])
          simp only [insert, at?, lookupMember?_insertMember_self, Option.bind_some]
          rw [ih further]
          cases held : lookupMember? children other with
          | some child => rfl
          | none => simp
        · simp [insert, at?, lookupMember?_insertMember_ne branch]

/-- Where no beginning of a pointer is recorded, there is no answer for it. -/
theorem resolve?_eq_none {tree : Provenance} {p : Pointer}
    (missing : ∀ q, q <+: p → tree.at? q = none) : tree.resolve? p = none := by
  -- By induction on the pointer: neither the root of the tree nor anything on the way is recorded.
  induction p generalizing tree with
  | nil =>
    cases tree
    exact missing [] List.nil_prefix
  | cons segment rest ih =>
    cases tree with
    | node here children =>
      have root : here = none := missing [] List.nil_prefix
      subst root
      cases held : lookupMember? children segment with
      | none => simp [resolve?, held]
      | some child =>
        -- Neither is a beginning of the rest recorded below the segment.
        have inner : child.resolve? rest = none := by
          refine ih fun more inside => ?_
          simpa [at?, held] using missing (segment :: more)
            (List.cons_prefix_cons.mpr ⟨rfl, inside⟩)
        simp [resolve?, held, inner]

/-- A pointer has an origin exactly if there is an answer for it. -/
theorem resolve_eq_ok {tree : Provenance} {p : Pointer} {origin : Origin} :
    tree.resolve p = .ok origin ↔ tree.resolve? p = some origin := by
  unfold resolve
  cases tree.resolve? p <;> simp

/-- Without an answer there is one fault only. -/
theorem resolve_eq_error {tree : Provenance} {p : Pointer} {fault : AuditFault} :
    tree.resolve p = .error fault ↔ tree.resolve? p = none ∧ fault = .noProvenance p.fragment := by
  unfold resolve
  cases tree.resolve? p <;> simp [eq_comm]

/-- The answer for a pointer is the origin of the longest recorded pointer that begins it, extended
by the segments behind that. -/
theorem resolve?_append {tree : Provenance} {p rest : Pointer} {origin : Origin}
    (recorded : tree.at? p = some origin)
    (longest : ∀ more, more ≠ [] → more <+: rest → tree.at? (p ++ more) = none) :
    tree.resolve? (p ++ rest) = some (origin.below rest) := by
  -- By induction on the recorded pointer, below which the answer is made.
  induction p generalizing tree with
  | nil =>
    cases tree with
    | node here children =>
      change here = some origin at recorded
      subst recorded
      cases rest with
      | nil => simp [resolve?, Origin.below]
      | cons segment behind =>
        -- Nothing is recorded below the first segment.
        have below : (lookupMember? children segment).bind (resolve? · behind) = none := by
          cases held : lookupMember? children segment with
          | none => rfl
          | some child =>
            refine resolve?_eq_none fun more inside => ?_
            have missing := longest (segment :: more) (List.cons_ne_nil _ _)
              (List.cons_prefix_cons.mpr ⟨rfl, inside⟩)
            simpa [at?, held] using missing
        simp [resolve?, below]
  | cons segment behind ih =>
    cases tree with
    | node here children =>
      simp only [List.cons_append, resolve?]
      cases held : lookupMember? children segment with
      | none => simp [at?, held] at recorded
      | some child =>
        -- The longest recorded pointer is found in the tree below the segment.
        have inner : child.resolve? (behind ++ rest) = some (origin.below rest) := by
          refine ih (by simpa [at?, held] using recorded) fun more filled inside => ?_
          simpa [at?, held] using longest more filled inside
        simp [inner]

/-- A recorded pointer is the longest one that begins the pointer with some more segments. -/
structure Longest (tree : Provenance) (p rest : Pointer) : Prop where
  recorded : (tree.at? p).isSome
  deepest : ∀ more, more ≠ [] → more <+: rest → tree.at? (p ++ more) = none

/-- Among the pointers that begin a given one, none is recorded, or there is a longest one that
is. -/
theorem longest_recorded (tree : Provenance) (p : Pointer) :
    (∀ q, q <+: p → tree.at? q = none) ∨ ∃ q rest, p = q ++ rest ∧ tree.Longest q rest := by
  -- By induction on the pointer: the longest one below the segment is the longest, if there is one.
  induction p generalizing tree with
  | nil =>
    cases held : tree.at? [] with
    | none =>
      left
      intro q inside
      rw [List.prefix_nil.mp inside, held]
    | some origin =>
      exact Or.inr ⟨[], [], rfl, by rw [held]; rfl, fun more filled inside =>
        absurd (List.prefix_nil.mp inside) filled⟩
  | cons segment rest ih =>
    cases tree with
    | node here children =>
      -- What is recorded below the segment is told by the tree there.
      have step : ∀ q, (node here children).at? (segment :: q) =
          ((lookupMember? children segment).getD empty).at? q := by
        intro q
        cases held : lookupMember? children segment <;> simp [at?, held]
      rcases ih ((lookupMember? children segment).getD empty) with missing |
        ⟨q, behind, split, recorded, longest⟩
      · cases here with
        | none =>
          left
          intro q inside
          cases q with
          | nil => rfl
          | cons other more =>
            obtain ⟨rfl, further⟩ := List.cons_prefix_cons.mp inside
            rw [step, missing more further]
        | some origin =>
          -- Only the root is recorded.
          refine Or.inr ⟨[], segment :: rest, rfl, rfl, ?_⟩
          intro more filled inside
          cases more with
          | nil => exact absurd rfl filled
          | cons other more =>
            obtain ⟨rfl, further⟩ := List.cons_prefix_cons.mp inside
            rw [List.nil_append, step, missing more further]
      · refine Or.inr ⟨segment :: q, behind, by rw [split]; rfl, by rw [step, recorded], ?_⟩
        intro more filled inside
        rw [List.cons_append, step, longest more filled inside]

/-- The origin of a pointer comes from the longest recorded pointer that begins it. -/
theorem resolve?_eq_some_iff {tree : Provenance} {p : Pointer} {found : Origin} :
    tree.resolve? p = some found ↔ ∃ q rest origin, p = q ++ rest ∧ tree.Longest q rest ∧
      tree.at? q = some origin ∧ found = origin.below rest := by
  constructor
  · intro answered
    -- There is an answer, so a longest pointer is recorded, and that one gives it.
    rcases longest_recorded tree p with missing | ⟨q, rest, rfl, longest⟩
    · rw [resolve?_eq_none missing] at answered
      cases answered
    · obtain ⟨origin, recorded⟩ := Option.isSome_iff_exists.mp longest.recorded
      rw [resolve?_append recorded longest.deepest] at answered
      cases answered
      exact ⟨q, rest, origin, rfl, longest, recorded, rfl⟩
  · rintro ⟨q, rest, origin, rfl, longest, recorded, rfl⟩
    exact resolve?_append recorded longest.deepest

/-- A pointer has no origin exactly if no beginning of it is recorded. -/
theorem resolve?_eq_none_iff {tree : Provenance} {p : Pointer} :
    tree.resolve? p = none ↔ ∀ q, q <+: p → tree.at? q = none := by
  -- A longest recorded beginning would answer, so there is none, and hence no recorded one at all.
  refine ⟨fun unanswered => ?_, resolve?_eq_none⟩
  rcases longest_recorded tree p with missing | ⟨q, rest, rfl, longest⟩
  · exact missing
  · obtain ⟨origin, recorded⟩ := Option.isSome_iff_exists.mp longest.recorded
    rw [resolve?_append recorded longest.deepest] at unanswered
    cases unanswered

/-- No segment is repeated among those right below a place of the tree. -/
inductive Distinct : Provenance → Prop
  | node {here children} (keys : (children.map Prod.fst).Nodup)
    (below : ∀ child ∈ children, Distinct child.2) : Distinct (.node here children)

/-- The empty tree repeats no segment. -/
theorem distinct_empty : empty.Distinct :=
  .node List.nodup_nil (by simp)

/-- Recording repeats no segment. -/
theorem Distinct.insert {tree : Provenance} (distinct : tree.Distinct) (p : Pointer)
    (origin : Origin) : (tree.insert p origin).Distinct := by
  -- Along the pointer, one child a level is stored in place of the former one.
  induction p generalizing tree with
  | nil =>
    cases distinct with
    | node keys below => exact .node keys below
  | cons segment rest ih =>
    cases distinct with
    | node keys below =>
      rename_i here children
      refine .node (insertMember_nodup keys _ _) fun child inside => ?_
      -- The tree below the segment had no repetitions, or it was empty.
      have former : ((lookupMember? children segment).getD empty).Distinct := by
        cases held : lookupMember? children segment with
        | none => exact distinct_empty
        | some child => exact below _ (lookupMember?_mem held)
      rcases mem_of_mem_insertMember inside with rfl | old
      · exact ih former
      · exact below child old

/-- Where no segment is repeated, the records are the origins that are recorded at their
pointers. -/
theorem Distinct.mem_records {tree : Provenance} (distinct : tree.Distinct) {p : Pointer}
    {origin : Origin} : (p, origin) ∈ tree.records ↔ tree.at? p = some origin := by
  -- By induction on the pointer.
  induction p generalizing tree with
  | nil =>
    cases distinct with
    | node keys below =>
      rename_i here children
      -- Records below segments are not at the root.
      have root : (([] : Pointer), origin) ∉ childRecords children := by
        intro inside
        obtain ⟨_, _, _, _, impossible, _⟩ := mem_childRecords_iff.mp inside
        cases impossible
      cases here <;> simp [records, at?, root, eq_comm]
  | cons segment rest ih =>
    cases distinct with
    | node keys below =>
      rename_i here children
      have above : (segment :: rest, origin) ∉
          (here.toList.map fun origin => (([] : Pointer), origin)) := by simp
      rw [records, List.mem_append, or_iff_right above, mem_childRecords_iff]
      constructor
      · rintro ⟨_, child, _, member, same, inside⟩
        cases same
        rw [at?, lookupMember?_of_mem keys member, Option.bind_some]
        exact (ih (below _ member)).mp inside
      · intro recorded
        -- The record stands in the tree that the segment leads to.
        obtain ⟨child, held, inner⟩ := Option.bind_eq_some_iff.mp recorded
        have member := lookupMember?_mem held
        exact ⟨segment, child, rest, member, rfl, (ih (below _ member)).mpr inner⟩

/-- Where no segment is repeated, the recorded pointers are those with an origin. -/
theorem Distinct.records_iff {tree : Provenance} (distinct : tree.Distinct) {p : Pointer} :
    tree.Records p ↔ (tree.at? p).isSome := by
  -- Both sides come down to a record in the list, once with its origin and once without.
  rw [Records, List.mem_map, Option.isSome_iff_exists]
  constructor
  · rintro ⟨⟨q, origin⟩, inside, rfl⟩
    exact ⟨origin, distinct.mem_records.mp inside⟩
  · rintro ⟨origin, recorded⟩
    exact ⟨(p, origin), distinct.mem_records.mpr recorded, rfl⟩

end Provenance

open Relation

/-- Steps repeat no segment in what is recorded. -/
theorem BundleSteps.distinct {context : BundleContext} {s t : BundleState}
    (steps : BundleSteps context s t) (distinct : s.provenance.Distinct) :
    t.provenance.Distinct := by
  -- By induction on the run.
  induction steps with
  | refl => exact distinct
  | tail _ step ih =>
    cases step with
    | read _ => exact ih
    -- Recording and reserving store one origin each.
    | record pointer source => exact ih.insert _ _
    | reserve _ _ _ => exact ih.insert _ _
    | fill _ _ => exact ih

end SpecTrace
