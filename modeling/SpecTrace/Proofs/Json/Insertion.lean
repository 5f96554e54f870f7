import SpecTrace.Bundle.Insertion
import SpecTrace.Proofs.Document.Children

/-! Pointers that begin one another, following them through JSON values, and what putting content at a
pointer changes. -/

namespace SpecTrace

/-- Two pointers that begin with the same segment are related as far as their rests are. -/
theorem related_cons_self (segment : String) (p q : Pointer) :
    related (segment :: p) (segment :: q) = related p q := by
  simp [related]

/-- To begin one another is the same from both sides. -/
theorem related_comm (p q : Pointer) : related p q = related q p :=
  Bool.or_comm _ _

/-- Unrelated pointers do not begin one another. -/
theorem related_eq_false_iff {p q : Pointer} :
    related p q = false ↔ ¬ p <+: q ∧ ¬ q <+: p := by
  simp [related, ← Bool.not_eq_true, List.isPrefixOf_iff_prefix]

namespace Json

/-- The value right below a value that a segment names. -/
def child? (value : Json) (segment : String) : Option Json :=
  match value with
  | .array items => (canonicalIndex? segment).bind (items[·]?)
  | .object members => lookupMember? members segment
  | _ => none

/-- The value at a pointer. -/
def find? : Json → Pointer → Option Json
  | value, [] => some value
  | value, segment :: rest => (value.child? segment).bind (find? · rest)

/-- The second part of a pointer is followed from where the first part leads. -/
theorem find?_append (value : Json) (p q : Pointer) :
    value.find? (p ++ q) = (value.find? p).bind (find? · q) := by
  -- The first part is followed segment by segment, from the child that each one names.
  induction p generalizing value with
  | nil => simp [find?]
  | cons segment rest ih =>
    simp only [List.cons_append, find?]
    cases value.child? segment with
    | none => rfl
    | some child => simp [ih]

/-- Content is put below the value of a member that is there or comes with it. -/
theorem insertAt?_cases {value content result : Json} {p : Pointer}
    (filled : value.insertAt? p content = some result) :
    ∃ members segment rest below, value = .object members ∧ p = segment :: rest ∧
      result = .object (insertMember members segment below) ∧
      ((rest = [] ∧ lookupMember? members segment = none ∧ below = content) ∨
        (rest ≠ [] ∧ ((lookupMember? members segment).getD (.object [])).insertAt? rest content =
          some below)) := by
  -- The definition distinguishes a last segment, an earlier one, and what is not an object.
  unfold insertAt? at filled
  split at filled
  · rename_i members last
    cases free : lookupMember? members last with
    | some held => simp [free] at filled
    | none =>
      simp only [free, Option.some.injEq] at filled
      exact ⟨members, last, [], content, rfl, rfl, filled.symm, Or.inl ⟨rfl, free, rfl⟩⟩
  · rename_i members segment rest longer
    -- Behind the segment there is at least one more.
    cases inner : ((lookupMember? members segment).getD (.object [])).insertAt? rest content with
    | none => simp [inner] at filled
    | some below =>
      simp only [inner, Option.bind_eq_bind, Option.bind_some, Option.some.injEq] at filled
      exact ⟨members, segment, rest, below, rfl, rfl, filled.symm,
        Or.inr ⟨fun empty => longer empty, inner⟩⟩
  · cases filled

/-- Content is found where it was put. -/
theorem find?_insertAt?_self {value content result : Json} {p : Pointer}
    (filled : value.insertAt? p content = some result) : result.find? p = some content := by
  -- Along the pointer, as content is put; the root itself is never filled.
  induction p generalizing value result with
  | nil =>
    obtain ⟨_, _, _, _, _, impossible, _⟩ := insertAt?_cases filled
    cases impossible
  | cons segment rest ih =>
    -- The content is put right here, or below the member.
    obtain ⟨members, _, _, below, rfl, same, rfl, last | further⟩ := insertAt?_cases filled <;>
      cases same
    · obtain ⟨rfl, _, rfl⟩ := last
      simp [find?, child?]
    · simp [find?, child?, ih further.2]

/-- Content is put only where nothing is. -/
theorem find?_of_insertAt? {value content result : Json} {p : Pointer}
    (filled : value.insertAt? p content = some result) : value.find? p = none := by
  induction p generalizing value result with
  | nil =>
    obtain ⟨_, _, _, _, _, impossible, _⟩ := insertAt?_cases filled
    cases impossible
  | cons segment rest ih =>
    obtain ⟨members, _, _, below, rfl, same, rfl, last | further⟩ := insertAt?_cases filled <;>
      cases same
    · -- At the last segment the member is known to be missing.
      simp [find?, child?, last.2.1]
    · -- The member was there, or nothing was below it.
      cases held : lookupMember? members segment with
      | none => simp [find?, child?, held]
      | some child =>
        have inner := further.2
        rw [held, Option.getD_some] at inner
        simpa [find?, child?, held] using ih inner

/-- Nothing is found below an empty object. -/
theorem find?_empty {segment : String} {rest : Pointer} :
    (Json.object []).find? (segment :: rest) = none := by
  simp [find?, child?]

/-- What is found at a pointer unrelated to the one at which content is put stays. -/
theorem find?_insertAt?_unrelated {value content result : Json} {p q : Pointer}
    (filled : value.insertAt? p content = some result) (apart : related p q = false) :
    result.find? q = value.find? q := by
  -- The pointers share some segments and then name different members of one object.
  induction p generalizing value result q with
  | nil => simp [related] at apart
  | cons segment rest ih =>
    obtain ⟨members, _, _, below, rfl, same, rfl, step⟩ := insertAt?_cases filled
    cases same
    cases q with
    | nil => simp [related] at apart
    | cons other behind =>
      -- The pointers part here or further below.
      by_cases branch : other = segment
      · subst branch
        rw [related_cons_self] at apart
        rcases step with ⟨rfl, _, _⟩ | ⟨_, inner⟩
        · simp [related] at apart
        · simp only [find?, child?, lookupMember?_insertMember_self, Option.bind_some]
          rw [ih inner apart]
          cases held : lookupMember? members other with
          | some child => rfl
          | none =>
            -- The object was new, and the other pointer does not end at it.
            cases behind with
            | nil => simp [related] at apart
            | cons _ _ => simp [find?_empty]
      · simp [find?, child?, lookupMember?_insertMember_ne branch]

/-- Storing a member keeps the keys in front of a new one. -/
theorem keys_prefix_insertMember (members : List (String × Json)) (key : String) (value : Json) :
    members.map Prod.fst <+: (insertMember members key value).map Prod.fst := by
  -- The key is there already, or it comes last.
  by_cases present : key ∈ members.map Prod.fst
  · exact ⟨[], by rw [insertMember_keys_of_mem present, List.append_nil]⟩
  · rw [insertMember_of_not_mem present, List.map_append]
    exact List.prefix_append _ _

/-- The members of a value that may not be there yet. -/
def membersOrNone (value : Option Json) : Option (List (String × Json)) :=
  (value.getD (.object [])).members?

/-- Above the pointer at which content is put there is an object, and it gets the next segment as a
key unless it has it. -/
theorem find?_insertAt?_next {value content result : Json} {q rest : Pointer} {segment : String}
    (filled : value.insertAt? (q ++ segment :: rest) content = some result) :
    ∃ members below, membersOrNone (value.find? q) = some members ∧
      result.find? q = some (.object (insertMember members segment below)) := by
  -- Along the way to the object. It is either this one, or below the member that comes first.
  induction q generalizing value result with
  | nil =>
    obtain ⟨members, _, _, below, rfl, same, rfl, _⟩ := insertAt?_cases filled
    cases same
    exact ⟨members, below, rfl, rfl⟩
  | cons first behind ih =>
    obtain ⟨members, _, _, below, rfl, same, rfl, ⟨last, _⟩ | ⟨_, inner⟩⟩ :=
      insertAt?_cases filled <;>
      cases same
    · exact absurd last (by simp)
    · -- The object stands below the first member, or it comes with the content.
      obtain ⟨held, filled, was, becomes⟩ := ih inner
      refine ⟨held, filled, ?_, by simpa [find?, child?] using becomes⟩
      rw [← was]
      cases present : lookupMember? members first with
      | some child => simp [find?, child?, present]
      | none => cases behind <;> simp [find?, child?, present, membersOrNone]

/-- Above the pointer at which content is put there are objects, and they keep their keys in front of
new ones. -/
theorem find?_insertAt?_above {value content result : Json} {p q : Pointer}
    (filled : value.insertAt? p content = some result) (above : q <+: p) (different : q ≠ p) :
    ∃ members members', membersOrNone (value.find? q) = some members ∧
      result.find? q = some (.object members') ∧ members.map Prod.fst <+: members'.map Prod.fst := by
  obtain ⟨behind, rfl⟩ := above
  -- A proper beginning of the pointer leaves a next segment, which becomes a key of its object.
  cases behind with
  | nil => exact absurd (List.append_nil q).symm different
  | cons segment rest =>
    obtain ⟨members, below, was, becomes⟩ := find?_insertAt?_next filled
    exact ⟨members, _, was, becomes, keys_prefix_insertMember members segment below⟩

/-- An object stays one wherever content is put, and it keeps its keys in front of new ones. -/
theorem object_insertAt? {value content result : Json} {p q : Pointer}
    (filled : value.insertAt? p content = some result) {members : List (String × Json)}
    (held : value.find? q = some (.object members)) :
    ∃ members', result.find? q = some (.object members') ∧
      members.map Prod.fst <+: members'.map Prod.fst := by
  -- The object is at or below the pointer, above it, or apart from it.
  by_cases below : p <+: q
  · -- Nothing was at the pointer, so nothing was below it.
    obtain ⟨rest, rfl⟩ := below
    rw [find?_append, find?_of_insertAt? filled] at held
    cases held
  · by_cases above : q <+: p
    · have different : q ≠ p := fun same => below (same ▸ List.prefix_rfl)
      obtain ⟨_, members', was, becomes, keys⟩ := find?_insertAt?_above filled above different
      rw [held] at was
      cases was
      exact ⟨members', becomes, keys⟩
    · refine ⟨members, ?_, List.prefix_rfl⟩
      rw [find?_insertAt?_unrelated filled (related_eq_false_iff.mpr ⟨below, above⟩), held]

/-- The values on the way to a pointer are objects, as far as there are any. -/
def ObjectsAbove (value : Json) (p : Pointer) : Prop :=
  ∀ q held, q <+: p → q ≠ p → value.find? q = some held → ∃ members, held = .object members

/-- There are objects on the way to a pointer if there are on the way behind its first segment, where
nothing counts as an empty object. -/
theorem objectsAbove_object {members : List (String × Json)} {segment : String} {rest : Pointer} :
    (Json.object members).ObjectsAbove (segment :: rest) ↔
      ((lookupMember? members segment).getD (.object [])).ObjectsAbove rest := by
  constructor
  · -- The way behind the segment is part of the whole way, begun at the member.
    intro above q held begins different found
    cases present : lookupMember? members segment with
    | some child =>
      rw [present, Option.getD_some] at found
      refine above (segment :: q) held ((List.prefix_cons_inj segment).mpr begins) ?_ ?_
      · exact fun same => different (List.cons.inj same).2
      · simpa [find?, child?, present] using found
    | none =>
      rw [present, Option.getD_none] at found
      -- Only the new object itself is there.
      cases q with
      | nil => exact ⟨[], (Option.some.inj found).symm⟩
      | cons _ _ => simp [find?_empty] at found
  · -- The whole way is the object itself, and then the way from the member.
    intro below q held begins different found
    cases q with
    | nil => exact ⟨members, (Option.some.inj found).symm⟩
    | cons other q =>
      obtain ⟨rfl, inside⟩ := List.cons_prefix_cons.mp begins
      obtain ⟨child, present, found⟩ := Option.bind_eq_some_iff.mp found
      change lookupMember? members other = some child at present
      rw [present, Option.getD_some] at below
      exact below q held inside (fun same => different (by rw [same])) found

/-- Nothing is at a pointer of several segments if nothing is behind the first one, where nothing
counts as an empty object. -/
theorem find?_object_eq_none {members : List (String × Json)} {segment next : String}
    {behind : Pointer} :
    (Json.object members).find? (segment :: next :: behind) = none ↔
      ((lookupMember? members segment).getD (.object [])).find? (next :: behind) = none := by
  cases present : lookupMember? members segment <;> simp [find?, child?, present]

/-- Content can be put at a pointer exactly if the pointer is not the root, the values on the way are
objects and nothing is at its end. -/
theorem insertAt?_isSome_iff {value content : Json} {p : Pointer} :
    (value.insertAt? p content).isSome ↔
      p ≠ [] ∧ value.ObjectsAbove p ∧ value.find? p = none := by
  -- By induction along the pointer, which walks into the objects that it meets or creates.
  induction p generalizing value with
  | nil => cases value <;> simp [insertAt?]
  | cons segment rest ih =>
    cases value with
    | object members =>
      rw [objectsAbove_object]
      cases rest with
      | nil =>
        -- Above a single segment there is only the object.
        have trivially : ∀ child : Json, child.ObjectsAbove [] :=
          fun child q held begins different _ => absurd (List.prefix_nil.mp begins) different
        cases free : lookupMember? members segment <;>
          simp [insertAt?, free, find?, child?, trivially]
      | cons next behind =>
        rw [find?_object_eq_none, insertAt?, Option.bind_eq_bind, Option.isSome_bind]
        · simpa using ih
        · exact List.cons_ne_nil _ _
    | _ =>
      -- The value itself is on the way, and it is not an object.
      refine iff_of_false (by simp [insertAt?]) fun ⟨_, above, _⟩ => ?_
      obtain ⟨members, same⟩ := above [] _ List.nil_prefix (by simp) rfl
      cases same

/-- Content can be put at a pointer exactly if that is not the root, the values on the way there are
objects and nothing is there yet. Then it is found there below objects, what is neither on the way nor
below is as it was, and every object has its keys in front of new ones. -/
theorem only_the_destination_is_filled (value content : Json) (p : Pointer) :
    ((∃ result, value.insertAt? p content = some result) ↔
      p ≠ [] ∧ value.ObjectsAbove p ∧ value.find? p = none) ∧
    ∀ result, value.insertAt? p content = some result →
      result.find? p = some content ∧
      (∀ q, q <+: p → q ≠ p → ∃ members, result.find? q = some (.object members)) ∧
      (∀ q, ¬ q <+: p → ¬ p <+: q → result.find? q = value.find? q) ∧
      ∀ q members, value.find? q = some (.object members) →
        ∃ members', result.find? q = some (.object members') ∧
          members.map Prod.fst <+: members'.map Prod.fst := by
  -- Every clause is a lemma about one kind of pointer: the destination, what is above it, what is
  -- unrelated to it, and the objects.
  refine ⟨by rw [← Option.isSome_iff_exists, insertAt?_isSome_iff], fun result filled => ?_⟩
  refine ⟨find?_insertAt?_self filled, ?_, ?_, ?_⟩
  · intro q above different
    obtain ⟨_, members, _, becomes, _⟩ := find?_insertAt?_above filled above different
    exact ⟨members, becomes⟩
  · intro q above below
    exact find?_insertAt?_unrelated filled (related_eq_false_iff.mpr ⟨below, above⟩)
  · intro q members held
    exact object_insertAt? filled held

/-- A document with a title and one component. -/
def titledDocument : Json :=
  .object
    [("info", .object [("title", .string "T"), ("tags", .array [.bool true])]),
      ("components", .object [("schemas", .object [("a", .null)])])]

/-- A component of another kind gets an object of its own behind the old one, while no content can be
put at the root, over a component, or into the items of a list. -/
theorem response_is_added :
    ∃ result, titledDocument.insertAt? ["components", "responses", "b"] .null = some result ∧
      result.find? ["components", "responses", "b"] = some .null ∧
      result.find? ["info", "tags", "0"] = some (.bool true) ∧
      (∃ members, result.find? ["components", "responses"] = some (.object members)) ∧
      (∃ members, result.find? ["components"] = some (.object members) ∧
        ["schemas"] <+: members.map Prod.fst) ∧
      titledDocument.insertAt? [] .null = none ∧
      titledDocument.insertAt? ["components", "schemas", "a"] .null = none ∧
      titledDocument.insertAt? ["info", "tags", "0", "b"] .null = none := by
  have filled : (titledDocument.insertAt? ["components", "responses", "b"] .null).isSome = true := rfl
  obtain ⟨result, filled⟩ := Option.isSome_iff_exists.mp filled
  obtain ⟨_, changes⟩ :=
    only_the_destination_is_filled titledDocument .null ["components", "responses", "b"]
  obtain ⟨found, above, apart, keys⟩ := changes result filled
  refine ⟨result, filled, found, ?_, ?_, ?_, rfl, rfl, rfl⟩
  · -- The tags are apart from the way; the components are on it and keep their key in front.
    rw [apart ["info", "tags", "0"] (by decide) (by decide)]
    rfl
  · exact above ["components", "responses"] (by decide) (by decide)
  · exact keys ["components"] _ rfl

/-- The kind of a value, and the value itself if it has nothing inside. -/
def top : Json → Json
  | .array _ => .array []
  | .object _ => .object []
  | value => value

/-- A value is an object exactly if it has members. -/
theorem members?_eq_some_iff {value : Json} {members : List (String × Json)} :
    value.members? = some members ↔ value = .object members := by
  cases value <;> simp [members?]

end Json

/-- Different scalars are different values. -/
theorem Scalar.toJson_inj {one other : Scalar} : one.toJson = other.toJson ↔ one = other := by
  cases one <;> cases other <;> simp [toJson]

/-- A value of the kind of a scalar is that scalar. -/
theorem Json.top_eq_scalar {value : Json} {scalar : Scalar} :
    value.top = scalar.toJson ↔ value = scalar.toJson := by
  cases value <;> cases scalar <;> simp [top, Scalar.toJson]

/-- Below a scalar there is nothing. -/
theorem Json.find?_scalar {scalar : Scalar} {p : Pointer} {value : Json}
    (found : scalar.toJson.find? p = some value) : p = [] := by
  cases p with
  | nil => rfl
  | cons segment rest => cases scalar <;> cases found

end SpecTrace
