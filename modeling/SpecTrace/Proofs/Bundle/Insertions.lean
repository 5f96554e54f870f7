import Mathlib.Data.List.Induction
import Mathlib.Data.List.Nodup
import SpecTrace.Proofs.Bundle.LongestPrefix

/-! Provenance trees that are made by recording one origin after the other. Such a tree is a map with
the longest recorded pointer as its key. -/

namespace SpecTrace

namespace Provenance

variable {inserts : List (Pointer × Origin)} {p q : Pointer} {origin : Origin}

/-- The tree in which origins were recorded one after the other. -/
def ofInserts (inserts : List (Pointer × Origin)) : Provenance :=
  inserts.foldl (fun tree (p, origin) => tree.insert p origin) empty

/-- The last origin that was recorded at a pointer. -/
def lastOrigin? (inserts : List (Pointer × Origin)) (p : Pointer) : Option Origin :=
  (inserts.filter fun entry => entry.1 = p).getLast?.map Prod.snd

/-- One more record goes into the tree. -/
theorem ofInserts_snoc (inserts : List (Pointer × Origin)) (p : Pointer) (origin : Origin) :
    ofInserts (inserts ++ [(p, origin)]) = (ofInserts inserts).insert p origin := by
  simp [ofInserts]

/-- The last record decides at its own pointer, and nowhere else. -/
theorem lastOrigin?_snoc (inserts : List (Pointer × Origin)) (p q : Pointer) (origin : Origin) :
    lastOrigin? (inserts ++ [(p, origin)]) q =
      if p = q then some origin else lastOrigin? inserts q := by
  -- What is added at the end is the last of its pointer, if it is kept at all.
  unfold lastOrigin?
  rw [List.filter_append]
  split
  · rename_i same
    simp [same]
  · rename_i different
    simp [different]

/-- A pointer has a last origin exactly if one was recorded there. -/
theorem lastOrigin?_isSome : (lastOrigin? inserts p).isSome ↔ p ∈ inserts.map Prod.fst := by
  simp [lastOrigin?]

/-- What is recorded at a pointer is the origin that was recorded there last. -/
theorem at?_ofInserts (inserts : List (Pointer × Origin)) (p : Pointer) :
    (ofInserts inserts).at? p = lastOrigin? inserts p := by
  -- By induction on the records, the last of which decides.
  induction inserts using List.reverseRecOn with
  | nil => exact at?_empty p
  | append_singleton front entry ih =>
    rcases entry with ⟨q, origin⟩
    rw [ofInserts_snoc, lastOrigin?_snoc]
    split
    · rename_i same
      rw [same, at?_insert_self]
    · rename_i different
      rw [at?_insert_ne (Ne.symm different), ih]

/-- Recording repeats no segment, from the first record on. -/
theorem distinct_ofInserts (inserts : List (Pointer × Origin)) : (ofInserts inserts).Distinct := by
  induction inserts using List.reverseRecOn with
  | nil => exact distinct_empty
  | append_singleton front entry ih =>
    rw [ofInserts_snoc]
    exact ih.insert _ _

/-- Below segments that are not repeated, no pointer is recorded twice. -/
theorem nodup_childRecords {children : List (String × Provenance)}
    (keys : (children.map Prod.fst).Nodup)
    (below : ∀ child ∈ children, (child.2.records.map Prod.fst).Nodup) :
    ((childRecords children).map Prod.fst).Nodup := by
  -- By induction on the trees: each adds pointers that begin with its own segment.
  induction children with
  | nil => exact List.nodup_nil
  | cons first rest ih =>
    rcases first with ⟨segment, child⟩
    obtain ⟨apart, keys⟩ := List.nodup_cons.mp keys
    obtain ⟨here, behind⟩ := List.forall_mem_cons.mp below
    rw [childRecords, List.map_append, List.map_map]
    refine List.nodup_append.mpr ⟨?_, ih keys behind, ?_⟩
    · have longer : ((child.records.map Prod.fst).map (segment :: ·)).Nodup :=
        List.Nodup.map (fun _ _ same => (List.cons.inj same).2) here
      rwa [List.map_map] at longer
    · -- The pointers of the other trees begin with other segments.
      rintro one inside other outside rfl
      obtain ⟨⟨q, _⟩, _, rfl⟩ := List.mem_map.mp inside
      obtain ⟨name, tree, rest', member, same, _⟩ := mem_childRecords.mp outside
      cases same
      exact apart (List.mem_map.mpr ⟨_, member, rfl⟩)

/-- Where no segment is repeated, no pointer is recorded twice. -/
theorem Distinct.nodup_records {tree : Provenance} (distinct : tree.Distinct) :
    (tree.records.map Prod.fst).Nodup := by
  -- By induction on the tree.
  induction distinct with
  | @node here children keys _ ih =>
    rw [records, List.map_append]
    refine List.nodup_append.mpr ⟨by cases here <;> simp, nodup_childRecords keys ih, ?_⟩
    -- No pointer below a segment is that of the root.
    rintro one inside other outside rfl
    obtain ⟨_, _, _, _, same, _⟩ := mem_childRecords.mp outside
    subst same
    cases here <;> simp at inside

/-- Of the pointers that begin another one, a recorded pointer is the longest if no longer one has an
origin. -/
theorem longest_ofInserts {rest : Pointer} (recorded : lastOrigin? inserts q = some origin) :
    (ofInserts inserts).Longest q rest ↔
      ∀ other ∈ inserts.map Prod.fst, other <+: q ++ rest → other.length ≤ q.length := by
  constructor
  · rintro ⟨_, deepest⟩ other inserted begins
    by_contra longer
    -- The longer pointer goes on behind this one.
    obtain ⟨more, rfl⟩ :=
      List.prefix_of_prefix_length_le (List.prefix_append q rest) begins (by omega)
    have missing := deepest more (by rintro rfl; simp at longer)
      ((List.prefix_append_right_inj q).mp begins)
    rw [at?_ofInserts] at missing
    have known := lastOrigin?_isSome.mpr inserted
    rw [missing] at known
    cases known
  · intro longest
    refine ⟨by rw [at?_ofInserts, recorded]; rfl, fun more filled inside => ?_⟩
    -- If something longer had an origin, it would be one of the pointers that were recorded.
    by_contra found
    have inserted : q ++ more ∈ inserts.map Prod.fst := by
      rw [at?_ofInserts] at found
      exact lastOrigin?_isSome.mp (Option.isSome_iff_ne_none.mpr found)
    have length := longest _ inserted ((List.prefix_append_right_inj q).mpr inside)
    rw [List.length_append] at length
    exact filled (List.length_eq_zero_iff.mp (by omega))

/-- After any sequence of records, each recorded pointer is listed once, with the origin that was
recorded there last. The origin of a pointer is the last one recorded at the longest pointer that
begins it, extended by the segments behind that. A pointer that begins with no recorded one has no
origin. -/
theorem provenance_maps_longest_prefixes (inserts : List (Pointer × Origin)) :
    ((ofInserts inserts).records.map Prod.fst).Nodup ∧
      (∀ p origin, (p, origin) ∈ (ofInserts inserts).records ↔
        lastOrigin? inserts p = some origin) ∧
      (∀ p found, (ofInserts inserts).resolve p = .ok found ↔
        ∃ q rest origin, p = q ++ rest ∧
          (∀ other ∈ inserts.map Prod.fst, other <+: p → other.length ≤ q.length) ∧
          lastOrigin? inserts q = some origin ∧ found = origin.below rest) ∧
      ∀ p fault, (ofInserts inserts).resolve p = .error fault ↔
        (∀ q ∈ inserts.map Prod.fst, ¬q <+: p) ∧ fault = .noProvenance p.fragment := by
  -- The tree answers with the longest recorded beginning, and what is recorded there is the last
  -- insertion.
  have distinct := distinct_ofInserts inserts
  refine ⟨distinct.nodup_records, fun p origin => ?_, fun p found => ?_, fun p fault => ?_⟩
  · rw [distinct.mem_records, at?_ofInserts]
  · rw [resolve_eq_ok, resolve?_eq_some_iff]
    constructor
    · rintro ⟨q, rest, origin, rfl, longest, recorded, rfl⟩
      rw [at?_ofInserts] at recorded
      exact ⟨q, rest, origin, rfl, (longest_ofInserts recorded).mp longest, recorded, rfl⟩
    · rintro ⟨q, rest, origin, rfl, longest, recorded, rfl⟩
      refine ⟨q, rest, origin, rfl, (longest_ofInserts recorded).mpr longest, ?_, rfl⟩
      rw [at?_ofInserts, recorded]
  · rw [resolve_eq_error, resolve?_eq_none_iff]
    -- Nothing is at a pointer exactly if no origin was recorded there.
    have same : ∀ q, (ofInserts inserts).at? q = none ↔ q ∉ inserts.map Prod.fst := by
      intro q
      rw [at?_ofInserts, ← lastOrigin?_isSome, Bool.not_eq_true, Option.isSome_eq_false_iff,
        Option.isNone_iff_eq_none]
    simp only [same]
    exact and_congr_left' ⟨fun missing q inserted begins => missing q begins inserted,
      fun apart q begins inserted => apart q inserted begins⟩

example :
    (ofInserts [(["a"], ⟨["x"], ["1"]⟩), (["a", "b"], ⟨["y"], []⟩), (["a"], ⟨["z"], ["2"]⟩)]).resolve
      ["a", "c"] = .ok ⟨["z"], ["2", "c"]⟩ := by rfl

end Provenance

end SpecTrace
