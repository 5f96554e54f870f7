import SpecTrace.Bundle.Bundle
import SpecTrace.Proofs.Bundle.Invariants
import SpecTrace.Proofs.Json.Insertion

/-! Putting moved content at its destinations: where it is found, and what it leaves alone. -/

namespace SpecTrace

/-- The destinations of separate sources are unrelated in pairs. -/
theorem Separate.pairwise {context : BundleContext} {s : BundleState}
    (separate : Separate context s) :
    s.relocations.Pairwise fun one other =>
      related one.destination other.destination = false := by
  -- Sources occur once, so two relocations have different ones.
  have different : s.relocations.Pairwise fun one other => one.source ≠ other.source :=
    List.pairwise_map.mp separate.once
  exact different.imp_of_mem fun first second => separate.apart _ first _ second

namespace Bundle

variable {document placed : Json} {relocations : List Relocation}

/-- Content is put at the first destination, and all other content after that. -/
theorem place_cons {relocation : Relocation}
    (ran : place document (relocation :: relocations) = .ok placed) :
    ∃ filled, document.insertAt? relocation.destination (relocation.content.getD .null) =
      some filled ∧ place filled relocations = .ok placed := by
  -- An insertion that fails fails the whole, so the first one has succeeded.
  unfold place at ran
  split at ran
  · rename_i filled inserted
    exact ⟨filled, inserted, ran⟩
  · cases ran

/-- What is found at a pointer unrelated to every destination stays. -/
theorem find?_place_unrelated {p : Pointer}
    (ran : place document relocations = .ok placed)
    (apart : ∀ relocation ∈ relocations, related relocation.destination p = false) :
    placed.find? p = document.find? p := by
  -- By induction on the relocations, in the order in which their content is put.
  induction relocations generalizing document with
  | nil =>
    cases ran
    rfl
  | cons relocation rest ih =>
    obtain ⟨filled, inserted, others⟩ := place_cons ran
    -- Each content in turn goes to an unrelated place.
    obtain ⟨first, later⟩ := List.forall_mem_cons.mp apart
    rw [ih others later, Json.find?_insertAt?_unrelated inserted first]

/-- Content is found at its destination, whatever was put at unrelated destinations after it. -/
theorem find?_place_destination (ran : place document relocations = .ok placed)
    (apart : relocations.Pairwise fun one other =>
      related one.destination other.destination = false)
    {relocation : Relocation} (member : relocation ∈ relocations) :
    placed.find? relocation.destination = some (relocation.content.getD .null) := by
  -- By induction on the relocations: content stays where it was put.
  induction relocations generalizing document with
  | nil => cases member
  | cons first rest ih =>
    obtain ⟨filled, inserted, others⟩ := place_cons ran
    obtain ⟨away, apart⟩ := List.pairwise_cons.mp apart
    rcases List.mem_cons.mp member with rfl | member
    · -- The destinations of the rest are unrelated to this one.
      rw [find?_place_unrelated others fun other later => by
        rw [related_comm]
        exact away other later]
      exact Json.find?_insertAt?_self inserted
    · exact ih others apart member

/-- Nothing was at a destination before content was put there. -/
theorem find?_of_place (ran : place document relocations = .ok placed)
    (apart : relocations.Pairwise fun one other =>
      related one.destination other.destination = false)
    {relocation : Relocation} (member : relocation ∈ relocations) :
    document.find? relocation.destination = none := by
  -- By induction on the relocations that are put before this one.
  induction relocations generalizing document with
  | nil => cases member
  | cons first rest ih =>
    obtain ⟨filled, inserted, others⟩ := place_cons ran
    obtain ⟨away, apart⟩ := List.pairwise_cons.mp apart
    rcases List.mem_cons.mp member with rfl | member
    · -- Content is put where nothing was.
      exact Json.find?_of_insertAt? inserted
    · -- Content that was put before it went to an unrelated place.
      rw [← Json.find?_insertAt?_unrelated inserted (away relocation member)]
      exact ih others apart member

/-- No destination begins a pointer, so content is put below it or elsewhere. -/
def Outside (relocations : List Relocation) (p : Pointer) : Prop :=
  ∀ relocation ∈ relocations, ¬ relocation.destination <+: p

/-- A pointer that no destination begins is above a destination or unrelated to it. -/
theorem Outside.cases {p : Pointer} {relocation : Relocation}
    (outside : ¬ relocation.destination <+: p) :
    (p <+: relocation.destination ∧ p ≠ relocation.destination) ∨
      related relocation.destination p = false := by
  -- The pointer begins the destination or not.
  by_cases above : p <+: relocation.destination
  · refine Or.inl ⟨above, ?_⟩
    intro same
    exact outside (same ▸ List.prefix_rfl)
  · exact Or.inr (related_eq_false_iff.mpr ⟨outside, above⟩)

/-- Outside of destinations, a value with no content put below it stays. -/
theorem find?_place_outside {p : Pointer} (ran : place document relocations = .ok placed)
    (outside : Outside relocations p)
    (above : ¬ ∃ relocation ∈ relocations, p <+: relocation.destination) :
    placed.find? p = document.find? p := by
  -- Neither begins the other, so the pointer is unrelated to every destination.
  refine find?_place_unrelated ran fun relocation member => ?_
  exact related_eq_false_iff.mpr
    ⟨outside relocation member, fun inside => above ⟨relocation, member, inside⟩⟩

/-- An object that content is not put into keeps its keys in front of new ones. -/
theorem membersOrNone_place {p : Pointer} (ran : place document relocations = .ok placed)
    (outside : Outside relocations p) {members : List (String × Json)}
    (held : Json.membersOrNone (document.find? p) = some members) :
    ∃ members', Json.membersOrNone (placed.find? p) = some members' ∧
      members.map Prod.fst <+: members'.map Prod.fst := by
  -- By induction on the relocations, each of which leaves the object or adds a key behind.
  induction relocations generalizing document members with
  | nil =>
    cases ran
    exact ⟨members, held, List.prefix_rfl⟩
  | cons relocation rest ih =>
    obtain ⟨filled, inserted, others⟩ := place_cons ran
    obtain ⟨first, later⟩ := List.forall_mem_cons.mp outside
    rcases Outside.cases first with ⟨above, different⟩ | apart
    · -- The object grows once, and then as the others make it grow.
      obtain ⟨before, after, was, becomes, keys⟩ :=
        Json.find?_insertAt?_above inserted above different
      rw [held] at was
      cases was
      obtain ⟨members', ends, more⟩ := ih others later (congrArg Json.membersOrNone becomes)
      exact ⟨members', ends, keys.trans more⟩
    · rw [← Json.find?_insertAt?_unrelated inserted apart] at held
      exact ih others later held

/-- Above a destination there are objects, and they keep their keys in front of new ones. -/
theorem find?_place_above {p : Pointer} (ran : place document relocations = .ok placed)
    (outside : Outside relocations p) {relocation : Relocation}
    (member : relocation ∈ relocations) (above : p <+: relocation.destination) :
    ∃ members members', Json.membersOrNone (document.find? p) = some members ∧
      Json.membersOrNone (placed.find? p) = some members' ∧
      members.map Prod.fst <+: members'.map Prod.fst := by
  -- By induction on the relocations, up to the first one that is put below the pointer.
  induction relocations generalizing document with
  | nil => cases member
  | cons first rest ih =>
    obtain ⟨filled, inserted, others⟩ := place_cons ran
    obtain ⟨here, later⟩ := List.forall_mem_cons.mp outside
    rcases Outside.cases here with ⟨ahead, different⟩ | apart
    · obtain ⟨before, after, was, becomes, keys⟩ :=
        Json.find?_insertAt?_above inserted ahead different
      obtain ⟨members', ends, more⟩ :=
        membersOrNone_place others later (congrArg Json.membersOrNone becomes)
      exact ⟨before, members', was, ends, keys.trans more⟩
    · -- The relocation is one of the rest, which find the object as it was.
      rcases List.mem_cons.mp member with rfl | member
      · exact absurd above (related_eq_false_iff.mp apart).2
      · rw [← Json.find?_insertAt?_unrelated inserted apart]
        exact ih others later member

/-- An object outside of destinations was one before content was put anywhere. -/
theorem object_of_place {p : Pointer} (ran : place document relocations = .ok placed)
    (outside : Outside relocations p) {held : Json} (before : document.find? p = some held)
    {members : List (String × Json)} (after : placed.find? p = some (.object members)) :
    ∃ former, held = .object former := by
  by_cases above : ∃ relocation ∈ relocations, p <+: relocation.destination
  · obtain ⟨relocation, member, inside⟩ := above
    obtain ⟨former, _, was, _, _⟩ := find?_place_above ran outside member inside
    rw [before] at was
    -- Only objects have members.
    cases held with
    | object members => exact ⟨members, rfl⟩
    | _ => cases was
  · -- Content went elsewhere, so nothing changed.
    rw [find?_place_outside ran outside above, before] at after
    cases after
    exact ⟨members, rfl⟩

/-- Outside of destinations, a value keeps its kind, and itself if it is a scalar. -/
theorem find?_place_top {p : Pointer} (ran : place document relocations = .ok placed)
    (apart : relocations.Pairwise fun one other =>
      related one.destination other.destination = false)
    (outside : Outside relocations p) {value : Json} (held : document.find? p = some value) :
    ∃ value', placed.find? p = some value' ∧ value'.top = value.top := by
  by_cases above : ∃ relocation ∈ relocations, p <+: relocation.destination
  · obtain ⟨relocation, member, inside⟩ := above
    obtain ⟨members, members', was, becomes, _⟩ := find?_place_above ran outside member inside
    -- There is an object before and after, since content stands below it.
    obtain ⟨rest, split⟩ := inside
    have stands := find?_place_destination ran apart member
    rw [← split, Json.find?_append] at stands
    obtain ⟨value', after, _⟩ := Option.bind_eq_some_iff.mp stands
    rw [held] at was
    rw [after] at becomes
    obtain rfl := Json.members?_eq_some_iff.mp was
    obtain rfl := Json.members?_eq_some_iff.mp becomes
    exact ⟨_, after, rfl⟩
  · exact ⟨value, by rw [find?_place_outside ran outside above, held], rfl⟩

/-- A scalar outside of destinations was there before content was put anywhere. -/
theorem scalar_of_place {p : Pointer} (ran : place document relocations = .ok placed)
    (outside : Outside relocations p) {scalar : Scalar}
    (held : placed.find? p = some scalar.toJson) : document.find? p = some scalar.toJson := by
  rw [← held]
  refine (find?_place_outside ran outside ?_).symm
  -- Above a destination there would be an object.
  rintro ⟨relocation, member, inside⟩
  obtain ⟨_, members, _, becomes, _⟩ := find?_place_above ran outside member inside
  rw [held] at becomes
  cases scalar <;> cases becomes

/-- The keys that an object outside of destinations gets are new ones, and each is the next segment
on the way to a destination. -/
theorem keys_place {p : Pointer} (ran : place document relocations = .ok placed)
    (outside : Outside relocations p) {members : List (String × Json)}
    (held : Json.membersOrNone (document.find? p) = some members) :
    ∃ members' extra, Json.membersOrNone (placed.find? p) = some members' ∧
      members'.map Prod.fst = members.map Prod.fst ++ extra ∧
      ∀ key ∈ extra, key ∉ members.map Prod.fst ∧
        ∃ relocation ∈ relocations, p ++ [key] <+: relocation.destination := by
  -- By induction on the relocations: one that is put below adds the next segment, or goes on below
  -- it.
  induction relocations generalizing document members with
  | nil =>
    cases ran
    exact ⟨members, [], held, (List.append_nil _).symm, by simp⟩
  | cons relocation rest ih =>
    obtain ⟨filled, inserted, others⟩ := place_cons ran
    obtain ⟨first, later⟩ := List.forall_mem_cons.mp outside
    rcases Outside.cases first with ⟨⟨more, split⟩, different⟩ | apart
    · obtain ⟨segment, behind, rfl⟩ : ∃ segment behind, more = segment :: behind := by
        cases more with
        | nil => exact absurd ((List.append_nil _).symm.trans split) different
        | cons segment behind => exact ⟨segment, behind, rfl⟩
      have way : p ++ [segment] <+: relocation.destination := ⟨behind, by simp [← split]⟩
      rw [← split] at inserted
      obtain ⟨before, below, was, becomes⟩ := Json.find?_insertAt?_next inserted
      rw [held] at was
      cases was
      have after :
          Json.membersOrNone (filled.find? p) = some (insertMember members segment below) := by
        rw [becomes]
        rfl
      obtain ⟨members', extra, ends, keys, told⟩ := ih others later after
      have tells : ∀ key ∈ extra,
          ∃ other ∈ relocation :: rest, p ++ [key] <+: other.destination := by
        intro key member
        obtain ⟨_, other, inside, above⟩ := told key member
        exact ⟨other, List.mem_cons_of_mem _ inside, above⟩
      -- The segment is a key already, or it becomes one.
      by_cases present : segment ∈ members.map Prod.fst
      · rw [insertMember_keys_of_mem present] at keys told
        exact ⟨members', extra, ends, keys, fun key member =>
          ⟨(told key member).1, tells key member⟩⟩
      · -- The segment is the first of the new keys.
        rw [insertMember_of_not_mem present, List.map_append] at keys told
        refine ⟨members', segment :: extra, ends, by simpa using keys, ?_⟩
        intro key member
        rcases List.mem_cons.mp member with rfl | member
        · exact ⟨present, relocation, List.mem_cons_self, way⟩
        · exact ⟨fun old => (told key member).1 (List.mem_append_left _ old), tells key member⟩
    · rw [← Json.find?_insertAt?_unrelated inserted apart] at held
      obtain ⟨members', extra, ends, keys, told⟩ := ih others later held
      refine ⟨members', extra, ends, keys, fun key member => ⟨(told key member).1, ?_⟩⟩
      obtain ⟨_, other, inside, above⟩ := told key member
      exact ⟨other, List.mem_cons_of_mem _ inside, above⟩

end Bundle

end SpecTrace
