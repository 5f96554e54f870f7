import SpecTrace.Proofs.Bundle.Visible

/-! The nodes behind walked values. Along a pointer that passes no reference, values follow nodes;
and a scalar of a walked value was written at the same pointer, unless content was inlined on the
way. -/

namespace SpecTrace

open Relation

section

variable {context : BundleContext} {depth : Nat} {visit : Visit} {s s' : BundleState} {value : Json}

/-- A node that was walked was walked with some room. -/
theorem Walked.room (walked : Walked context depth visit s value s') :
    ∃ below, depth = below + 1 := by
  cases walked <;> exact ⟨_, rfl⟩

/-- The walk of a node that is no reference keeps its kind, and its value if it is a scalar. -/
theorem Walked.top (walked : Walked context depth visit s value s')
    (plain : visit.node.reference? = none) : value.top = visit.node.toJson.top := by
  -- The cases are those of the walk, and the last one is ruled out.
  cases walked with
  | scalar shape => rw [shape, Node.toJson]
  | sequence shape _ => rw [shape]; rfl
  | mapping shape _ _ => rw [shape]; rfl
  | reference refers _ _ =>
    rw [plain] at refers
    cases refers

/-- The walk of a mapping that is no reference makes an object with the same keys. -/
theorem Walked.of_mapping {entries : List (Entry Node)} {span : Span}
    (walked : Walked context depth visit s value s') (shape : visit.node = .mapping entries span)
    (plain : visit.node.reference? = none) :
    ∃ members, members.map Prod.fst = entries.map Entry.key ∧ value = .object members := by
  cases walked with
  | scalar other =>
    rw [shape] at other
    cases other
  | sequence other _ =>
    rw [shape] at other
    cases other
  -- The members are those of the children, under the same keys.
  | mapping _ _ children =>
    refine ⟨_, ?_, rfl⟩
    rw [children.keys, shape, Node.children, Node.keyed, List.map_map]
    rfl
  | reference refers _ _ =>
    rw [plain] at refers
    cases refers

/-- Where a pointer leads through nodes that are no references, the node that it leads to was walked
to the value that it leads to. -/
theorem Walked.follow {p : Pointer} {inner : Node}
    (walked : Walked context depth visit s value s') (found : visit.node.find? p = some inner)
    (plain : ∀ u, u <+: p → u ≠ p → ∀ way, visit.node.find? u = some way →
      way.reference? = none) :
    ∃ below s₁ s₂, value.find? p = some below ∧
      Walked context depth ⟨visit.origin.below p, inner, visit.site ++ p, visit.inlining⟩ s₁ below
        s₂ := by
  -- By induction on the pointer, one walked child after the other.
  induction p generalizing visit s value s' with
  | nil =>
    cases found
    exact ⟨value, s, s', rfl, by simpa using walked⟩
  | cons segment rest ih =>
    rw [Node.find?_cons] at found
    obtain ⟨child, known, further⟩ := Option.bind_eq_some_iff.mp found
    -- The node itself is on the way, so its children were walked in its place.
    obtain ⟨members, children, stands⟩ :=
      walked.of_plain (plain [] List.nil_prefix (List.cons_ne_nil _ _).symm _ rfl)
    obtain ⟨held, s₁, s₂, member, walkedChild, _, _⟩ := children.child known (by simp)
    have clear : ∀ u, u <+: rest → u ≠ rest → ∀ way, child.find? u = some way →
        way.reference? = none := by
      intro u above different way leads
      refine plain (segment :: u) (List.cons_prefix_cons.mpr ⟨rfl, above⟩)
        (fun same => different (List.cons_eq_cons.mp same).2) way ?_
      rw [Node.find?_cons, known]
      exact leads
    obtain ⟨below, s₃, s₄, inside, last⟩ := ih walkedChild further clear
    refine ⟨below, s₃, s₄, ?_, ?_⟩
    · rw [Json.find?, stands, member, Option.bind_some, inside]
    · simpa [Visit.child, Origin.below_below] using last

/-- Content that took the place of a reference is recorded there when the walk ends. -/
theorem Replaces.records {call : Call} {content : Json} (replaces : Replaces context call content)
    (ran : call.run context = (.ok value, s')) : s'.provenance.Records call.visit.site := by
  have walked := Call.walked ran
  cases replaces with
  | intro refers answered =>
    obtain ⟨members, siblings, _⟩ := walked.of_replaced refers answered
    exact siblings.steps.records answered.records

/-- A scalar that a node was walked to is the node, or it took the place of a reference there. -/
theorem Walked.of_scalar {scalar : Scalar}
    (walked : Walked context depth visit s scalar.toJson s') :
    (∃ span, visit.node = .scalar scalar span) ∨
      Replaces context ⟨depth, visit, s⟩ scalar.toJson := by
  -- A node that is no reference keeps its kind, so a scalar comes from that scalar.
  generalize made : scalar.toJson = value at walked ⊢
  cases walked with
  | scalar shape =>
    obtain rfl := Scalar.toJson_inj.mp made
    exact Or.inl ⟨_, shape⟩
  | sequence _ _ => cases scalar <;> cases made
  | mapping _ _ _ => cases scalar <;> cases made
  | @reference _ _ _ _ answer _ _ _ refers answered _ =>
    -- Only content in the place of the reference can be a scalar.
    cases answer with
    | kept => cases scalar <;> cases made
    | pointing pointer => cases scalar <;> cases made
    | replaced content =>
      cases content with
      | object _ => cases scalar <;> cases made
      | _ => exact Or.inr (.intro refers answered)

/-- A scalar at a pointer of a walked value was written at the same pointer, or content took the
place of the node or of one on the way; such content is recorded. -/
def WrittenAt (context : BundleContext) (call : Call) (s' : BundleState) (p : Pointer)
    (scalar : Scalar) : Prop :=
  (∃ span, call.visit.node.find? p = some (.scalar scalar span)) ∨
    (∃ content, Replaces context call content) ∨
      ∃ q, q ≠ [] ∧ q <+: p ∧ s'.provenance.Records (call.visit.site ++ q)

/-- What was written in a child was written in the node. -/
theorem WrittenAt.of_child {segment : String} {rest : Pointer} {scalar : Scalar} {child : Node}
    {below : Json} {s₁ s₂ : BundleState}
    (known : lookupMember? visit.node.children segment = some child)
    (walked : Walked context depth (visit.child segment child) s₁ below s₂)
    (after : BundleSteps context s₂ s')
    (written : WrittenAt context ⟨depth, visit.child segment child, s₁⟩ s₂ rest scalar) :
    WrittenAt context ⟨depth, visit, s⟩ s' (segment :: rest) scalar := by
  rcases written with ⟨span, found⟩ | ⟨content, replaces⟩ | ⟨q, _, above, recorded⟩
  · refine Or.inl ⟨span, ?_⟩
    rw [Node.find?_cons, known]
    exact found
  · -- Content in the place of the child is recorded on the way.
    exact Or.inr (Or.inr ⟨[segment], List.cons_ne_nil _ _, by simp,
      after.records (replaces.records walked.run)⟩)
  · refine Or.inr (Or.inr ⟨segment :: q, List.cons_ne_nil _ _,
      List.cons_prefix_cons.mpr ⟨rfl, above⟩, after.records ?_⟩)
    simpa [Visit.child] using recorded

/-- A scalar of a walked value was written, or it is in content that was recorded. Texts under the
key of references are left out. -/
theorem Walked.written {p : Pointer} {scalar : Scalar}
    (walked : Walked context depth visit s value s') (distinct : visit.node.Distinct)
    (found : value.find? p = some scalar.toJson) (other : ∀ q, p ≠ q ++ [referenceKey]) :
    WrittenAt context ⟨depth, visit, s⟩ s' p scalar := by
  -- By induction on the pointer: what stands below a segment was made of a child, or of content.
  induction p generalizing visit s value s' with
  | nil =>
    rw [Json.find?, Option.some.injEq] at found
    subst found
    rcases walked.of_scalar with ⟨span, shape⟩ | replaces
    · exact Or.inl ⟨span, congrArg some shape⟩
    · exact Or.inr (Or.inl ⟨_, replaces⟩)
  | cons segment rest ih =>
    obtain ⟨below, stands, inside⟩ := Option.bind_eq_some_iff.mp found
    have behind : ∀ q, rest ≠ q ++ [referenceKey] :=
      fun q same => other (segment :: q) (by simp [same])
    obtain ⟨room, rfl⟩ := walked.room
    cases refers : visit.node.reference? with
    | none =>
      -- The value below the segment is that of a child.
      obtain ⟨members, children, stood⟩ := walked.of_plain refers
      rw [stood] at stands
      obtain ⟨child, s₁, s₂, known, below, _, after⟩ := children.lookup stands (by simp)
      exact .of_child known below after
        (ih below (distinct.child (lookupMember?_mem known)) inside behind)
    | some raw =>
      obtain ⟨answer, s₁, members, answered, siblings, rfl⟩ := walked.of_reference refers
      have keys := siblings.keys.symm ▸ distinct.keys
      rcases Answer.child?_complete_cases stands with
        ⟨own, member⟩ | ⟨content, rfl, _⟩ | ⟨rfl, kept | ⟨pointer, _, rfl⟩⟩
      · -- It is that of a member beside the reference.
        obtain ⟨child, s₂, s₃, known, below, _, after⟩ :=
          siblings.lookup (lookupMember?_of_mem keys member) (fun _ => own)
        exact .of_child known below after
          (ih below (distinct.child (lookupMember?_mem known)) inside behind)
      · exact Or.inr (Or.inl ⟨content, .intro refers answered⟩)
      · -- The text of the reference has nothing below it, so the pointer ends there.
        have text := kept.2.symm.trans
          (siblings.lookup_reference.trans (lookup_of_reference? refers))
        cases text
        obtain rfl := Json.find?_string inside
        exact absurd rfl (other [])
      · obtain rfl := Json.find?_string inside
        exact absurd rfl (other [])

/-- A child of a node is walked, unless it makes the node a reference. -/
theorem Call.descends {call : Call} {key : String} {node : Node}
    (ran : call.run context = (.ok value, s'))
    (known : lookupMember? call.visit.node.children key = some node)
    (other : ∀ raw, call.visit.node.reference? = some raw → key ≠ referenceKey) :
    ∃ next, Descends context call key next ∧ next.visit = call.visit.child key node := by
  have walked := Call.walked ran
  rcases call with ⟨depth, visit, s⟩
  obtain ⟨room, rfl⟩ := walked.room
  dsimp only at known other walked
  -- The child is one of all children, or one of those beside the reference.
  cases refers : visit.node.reference? with
  | none =>
    obtain ⟨members, children, _⟩ := walked.of_plain refers
    obtain ⟨below, _, _, member, _⟩ := children.child known (by simp)
    -- The child is walked behind those before it.
    obtain ⟨before, same, behind, front, s₁, s₂, split, again, earlier, _⟩ :=
      children.split member (by simp)
    rw [known] at again
    cases again
    exact ⟨_, ⟨.child refers split earlier, rfl, rfl⟩, rfl⟩
  | some raw =>
    obtain ⟨answer, s₁, members, answered, siblings, _⟩ := walked.of_reference refers
    obtain ⟨below, _, _, member, _⟩ := siblings.child known (fun _ => other raw refers)
    obtain ⟨before, same, behind, front, s₂, s₃, split, again, earlier, _⟩ :=
      siblings.split member (fun _ => other raw refers)
    rw [known] at again
    cases again
    exact ⟨_, ⟨.sibling refers answered split (other raw refers) earlier, rfl, rfl⟩, rfl⟩

/-- A node below that of a call is walked on its own, and its value stands at its pointer, unless a
member on the way to it is dropped. Texts of references are left out. -/
theorem Call.comes {first call : Call} {p : Pointer} {inner : Node}
    (ran : call.run context = (.ok value, s'))
    (reached : ReflTransGen (Calls context) first call) (distinct : call.visit.node.Distinct)
    (found : call.visit.node.find? p = some inner) (other : ∀ q, p ≠ q ++ [referenceKey]) :
    Dropped context first (call.visit.site ++ p) ∨
      ∃ last below t, ReflTransGen (Calls context) first last ∧
        last.visit = ⟨call.visit.origin.below p, inner, call.visit.site ++ p, call.visit.inlining⟩ ∧
        last.run context = (.ok below, t) ∧ value.find? p = some below := by
  -- By induction on the pointer, from call to call.
  induction p generalizing call value s' with
  | nil =>
    cases found
    exact Or.inr ⟨call, value, s', reached, by simp, ran, rfl⟩
  | cons segment rest ih =>
    have whole := found
    rw [Node.find?_cons] at found
    obtain ⟨child, known, further⟩ := Option.bind_eq_some_iff.mp found
    have behind : ∀ q, rest ≠ q ++ [referenceKey] := fun q same =>
      other (segment :: q) (by simp [same])
    obtain ⟨next, descends, visit⟩ := Call.descends ran known fun raw refers same => by
      -- Nothing is below the text of a reference.
      subst same
      obtain rfl := Node.find?_reference refers whole
      exact other [] rfl
    obtain ⟨below, t, answers, stands⟩ := descends.answers distinct ran
    have inner : next.visit.node = child := by rw [visit]; rfl
    rcases stands with held | ⟨sibling, content, replaces, flat⟩
    · -- The value of the child stands below the segment, so the way goes on there.
      rcases ih answers (reached.tail descends.1)
        (inner ▸ distinct.child (lookupMember?_mem known)) (inner ▸ further) behind with
        dropped | ⟨last, below, t, reached, same, made, inside⟩
      · left
        simpa [visit, Visit.child] using dropped
      · refine Or.inr ⟨last, below, t, reached, ?_, made, ?_⟩
        · simpa [visit, Visit.child, Origin.below_below] using same
        · rw [Json.find?, held, Option.bind_some, inside]
    · exact Or.inl ⟨_, content, segment, rest, ⟨call, reached, replaces, rfl, sibling⟩, rfl, flat⟩

end

end SpecTrace
