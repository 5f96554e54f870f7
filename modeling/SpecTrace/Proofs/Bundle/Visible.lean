import SpecTrace.Proofs.Bundle.Ways

/-! What a walk shows: the value made at the end of a way stands in the value made at its beginning,
unless the members beside a reference and the content in its place contest it. -/

namespace SpecTrace

open Relation

/-- The keys that stand beside the reference of a mapping. -/
def Node.siblings (node : Node) : List String :=
  (node.children.map Prod.fst).filter (· ≠ referenceKey)

/-- A key stands beside a reference in whose place there is content at a site. -/
def Beside (context : BundleContext) (first : Call) (site : Pointer) (content : Json)
    (key : String) : Prop :=
  ∃ call, ReflTransGen (Calls context) first call ∧ Replaces context call content ∧
    call.visit.site = site ∧ key ∈ call.visit.node.siblings

/-- A member beside a reference is on the way along a pointer, and it is dropped, since the content
in the place of the reference is no object. -/
def Dropped (context : BundleContext) (first : Call) (p : Pointer) : Prop :=
  ∃ site content key rest, Beside context first site content key ∧ p = site ++ key :: rest ∧
    content.members? = none

/-- A member beside a reference is on the way along a pointer, and it is dropped, or it hides what
the content has there. -/
def Contested (context : BundleContext) (first : Call) (p : Pointer) : Prop :=
  ∃ site content key rest, Beside context first site content key ∧ p = site ++ key :: rest ∧
    (content.members? = none ∨ (content.find? (key :: rest)).isSome)

/-- At a site where an object takes the place of a reference, a member beside the reference was
walked to a value. -/
def Overlaid (context : BundleContext) (first : Call) (site : Pointer) (key : String)
    (below : Json) : Prop :=
  ∃ call content next t, ReflTransGen (Calls context) first call ∧
    Replaces context call content ∧ content.members?.isSome ∧ call.visit.site = site ∧
    key ∈ call.visit.node.siblings ∧ Descends context call key next ∧
    next.run context = (.ok below, t)

/-- A value shows another under members that were put over it: both are of one kind, and they have
the same below every key but those of such members. -/
structure Covers (context : BundleContext) (first : Call) (site : Pointer) (shown value : Json) :
    Prop where
  top : shown.top = value.top
  child : ∀ key, shown.child? key = value.child? key ∨
    ∃ below, shown.child? key = some below ∧ Overlaid context first site key below

section

variable {context : BundleContext} {first call next last : Call} {site p q : Pointer}
  {key segment : String} {value shown below content : Json} {s' : BundleState}

/-- A member that was put over content stands beside the reference. -/
theorem Overlaid.beside (overlaid : Overlaid context first site key below) :
    ∃ content, Beside context first site content key ∧ content.members?.isSome := by
  obtain ⟨call, content, _, _, reached, replaces, object, here, member, _⟩ := overlaid
  exact ⟨content, ⟨call, reached, replaces, here, member⟩, object⟩

/-- A value shows itself. -/
theorem Covers.refl (value : Json) : Covers context first site value value :=
  ⟨rfl, fun _ => Or.inl rfl⟩

/-- A value shows what is shown by one that it shows. -/
theorem Covers.trans (outer : Covers context first site shown value)
    (inner : Covers context first site value below) :
    Covers context first site shown below := by
  refine ⟨outer.top.trans inner.top, fun key => ?_⟩
  rcases outer.child key with same | laid
  · -- Members that were put over the inner value are seen from outside as well.
    rcases inner.child key with equal | ⟨held, found, overlaid⟩
    · exact Or.inl (same.trans equal)
    · exact Or.inr ⟨held, same.trans found, overlaid⟩
  · exact Or.inr laid

/-- A value has the same below a pointer as one that it shows, unless the pointer starts with a key
beside a reference. -/
theorem Covers.find?_top (covers : Covers context first site shown value)
    (clear : ∀ content key, Beside context first site content key → p.head? ≠ some key) :
    (shown.find? p).map Json.top = (value.find? p).map Json.top := by
  cases p with
  | nil => simpa [Json.find?] using covers.top
  | cons key rest =>
    -- Only below the key of a member that was put over it may the values differ.
    rcases covers.child key with same | ⟨below, _, overlaid⟩
    · simp [Json.find?, same]
    · obtain ⟨content, beside, _⟩ := overlaid.beside
      exact absurd rfl (clear content key beside)

/-- The siblings of a node are its children but for the reference. -/
theorem Node.mem_siblings {node : Node} :
    key ∈ node.siblings ↔ key ∈ node.children.map Prod.fst ∧ key ≠ referenceKey := by
  simp [siblings]

/-- An answer makes an object of the members of a reference, or it is content that is none. -/
theorem Answer.object_or_flat (answer : Answer) (members : List (String × Json)) :
    (∃ object, answer.complete members = .object object) ∨
      ∃ content, answer = .replaced content ∧ content.members? = none := by
  -- Siblings make an object of any answer except for content that has no members.
  cases answer with
  | kept => exact Or.inl ⟨_, rfl⟩
  | pointing pointer => exact Or.inl ⟨_, rfl⟩
  | replaced content =>
    cases content with
    | object held => exact Or.inl ⟨_, rfl⟩
    | _ => exact Or.inr ⟨_, rfl, rfl⟩

/-- A child that was walked has the value that stands under its key, unless it stands beside a
reference in whose place there is content that is no object. -/
theorem Descends.answers (descends : Descends context call segment next)
    (distinct : call.visit.node.Distinct) (ran : call.run context = (.ok value, s')) :
    ∃ below t, next.run context = (.ok below, t) ∧
      (value.child? segment = some below ∨
        segment ∈ call.visit.node.siblings ∧
          ∃ content, Replaces context call content ∧ content.members? = none) := by
  obtain ⟨calls, level, site⟩ := descends
  obtain ⟨below, t, answers⟩ := calls.answers ran
  have walked := Call.walked ran
  have inner := Call.walked answers
  refine ⟨below, t, answers, ?_⟩
  -- Calls for content use up depth, so this is one for a child or beside a reference.
  cases calls with
  | moved _ _ _ _ _ => exact absurd level.symm (Nat.succ_ne_self _)
  | replaced _ _ _ _ _ => exact absurd level.symm (Nat.succ_ne_self _)
  | child plain split earlier =>
    obtain rfl := (List.append_singleton_inj.mp site).2
    obtain ⟨members, children, stands⟩ := walked.of_plain plain
    have keys := children.keys.symm ▸ distinct.keys
    dsimp only at children keys
    rw [split] at children
    obtain ⟨_, _, back, again, _, rfl⟩ := children.part earlier (by simp)
    obtain ⟨rfl, _⟩ := inner.unique again
    -- Keys are distinct, so the value is the one that is found under the segment.
    rw [stands]
    exact Or.inl (lookupMember?_of_mem keys (by simp))
  | @sibling _ _ _ _ answer _ _ _ _ _ front _ refers answered split other earlier =>
    obtain rfl := (List.append_singleton_inj.mp site).2
    obtain ⟨answer, s₁, members, again, siblings, rfl⟩ := walked.of_reference refers
    obtain ⟨rfl, rfl⟩ := answered.unique again
    have keys := siblings.keys.symm ▸ distinct.keys
    dsimp only at siblings keys
    rw [split] at siblings
    obtain ⟨_, _, back, same, _, rfl⟩ := siblings.part earlier (fun _ => other)
    obtain ⟨rfl, _⟩ := inner.unique same
    have held := lookupMember?_of_mem keys (List.mem_append_right _ List.mem_cons_self)
    rcases answer.object_or_flat (front ++ (_, below) :: back) with
      ⟨object, shape⟩ | ⟨content, rfl, flat⟩
    · exact Or.inl (Answer.child?_complete shape keys held other)
    · -- Only content that is no object takes the siblings away.
      exact Or.inr ⟨Node.mem_siblings.mpr ⟨by simp [split], other⟩, content,
        .intro refers answered, flat⟩

/-- A member that was walked beside a reference is the value of a call. -/
theorem WalkedChildren.descends {depth : Nat} {visit : Visit} {s s₁ : BundleState} {raw : String}
    {answer : Answer} {members : List (String × Json)} (refers : visit.node.reference? = some raw)
    (answered : Answered context depth visit raw s answer s₁)
    (siblings : WalkedChildren context (depth + 1) visit true visit.node.children s₁ members s')
    (held : lookupMember? members key = some below) (other : key ≠ referenceKey) :
    key ∈ visit.node.siblings ∧ ∃ next t, Descends context ⟨depth + 1, visit, s⟩ key next ∧
      next.run context = (.ok below, t) := by
  -- The members before the one that is held give the state in which its call begins.
  obtain ⟨before, node, behind, front, s₂, t, split, _, earlier, walked⟩ :=
    siblings.split held (fun _ => other)
  exact ⟨Node.mem_siblings.mpr ⟨by simp [split], other⟩, _, t,
    ⟨.sibling refers answered split other earlier, rfl, rfl⟩, walked.run⟩

/-- Content in the place of a reference keeps what it has below its keys, but for those of members
that were walked beside the reference. -/
theorem Inlines.answers (inlines : Inlines context call next)
    (distinct : call.visit.node.Distinct) (ran : call.run context = (.ok value, s')) :
    ∃ content t, next.run context = (.ok content, t) ∧ Replaces context call content ∧
      value.top = content.top ∧ ∀ key, value.child? key = content.child? key ∨
        content.members?.isSome ∧ key ∈ call.visit.node.siblings ∧ ∃ below side t',
          value.child? key = some below ∧ Descends context call key side ∧
          side.run context = (.ok below, t') := by
  obtain ⟨⟨calls, inside⟩, filled⟩ := inlines
  obtain ⟨content, t, answers⟩ := calls.answers ran
  refine ⟨content, t, answers, ?_⟩
  have walked := Call.walked ran
  have inner := Call.walked answers
  -- Only content that takes the place of a reference is entered with something inlined.
  cases calls with
  | child _ _ _ => exact absurd inside (Nat.lt_irrefl _)
  | sibling _ _ _ _ _ => exact absurd inside (Nat.lt_irrefl _)
  | moved _ _ _ _ _ => exact absurd rfl filled
  | replaced refers leaves new homeless fresh =>
    have answered := Answered.replaced leaves new homeless fresh inner
    obtain ⟨members, siblings, rfl⟩ := walked.of_replaced refers answered
    have keys := siblings.keys.symm ▸ distinct.keys
    refine ⟨.intro refers answered, ?_, fun key => ?_⟩
    · -- Putting members over content does not change its kind.
      cases content <;> rfl
    · cases content with
      | object held =>
        change (overlay (.object held) members).get? key = _ ∨ _ ∧ _ ∧ ∃ below side t',
          (overlay (.object held) members).get? key = _ ∧ _
        rw [get?_overlay]
        cases laid : lookupMember? (members.filter fun member => member.1 ≠ referenceKey).reverse
            key with
        | none => exact Or.inl rfl
        | some below =>
          -- A member that was put over the content is one that was walked beside the reference.
          obtain ⟨member, other⟩ :=
            List.mem_filter.mp (List.mem_reverse.mp (lookupMember?_mem laid))
          obtain ⟨sibling, side, t', descends, made⟩ := siblings.descends refers answered
            (lookupMember?_of_mem keys member) (by simpa using other)
          exact Or.inr ⟨rfl, sibling, below, side, t', rfl, descends, made⟩
      | _ => exact Or.inl rfl

/-- What is made at the end of a way is shown by what is made at its beginning, unless the way is
contested. -/
theorem Leads.shows (leads : Leads context call p last)
    (distinct : ∀ call, ReflTransGen (Calls context) first call → call.visit.node.Distinct)
    (reached : ReflTransGen (Calls context) first call)
    (ran : call.run context = (.ok value, s')) :
    ∃ below t, last.run context = (.ok below, t) ∧
      (Contested context first last.visit.site ∨
        ∃ shown, value.find? p = some shown ∧
          Covers context first last.visit.site shown below) := by
  -- The way is followed from its beginning, where the whole value is at hand.
  induction leads generalizing value s' with
  | here => exact ⟨value, s', ran, Or.inr ⟨value, rfl, .refl value⟩⟩
  | @child call segment next p last descends further ih =>
    obtain ⟨held, t, answers, stands⟩ := descends.answers (distinct _ reached) ran
    obtain ⟨below, t, made, shown⟩ := ih (reached.tail descends.1) answers
    refine ⟨below, t, made, ?_⟩
    rcases stands with found | ⟨sibling, content, replaces, flat⟩
    · -- The value of the child stands below its key.
      rcases shown with contested | ⟨shown, inside, covers⟩
      · exact Or.inl contested
      · refine Or.inr ⟨shown, ?_, covers⟩
        rw [Json.find?, found, Option.bind_some, inside]
    · -- The child stood beside a reference and was dropped.
      exact Or.inl ⟨_, content, segment, p, ⟨call, reached, replaces, rfl, sibling⟩,
        (Leads.child descends further).site, Or.inl flat⟩
  | @content call next p last inlines further ih =>
    obtain ⟨content, t, answers, replaces, top, keys⟩ := inlines.answers (distinct _ reached) ran
    obtain ⟨below, t, made, shown⟩ := ih (reached.tail inlines.1.1) answers
    refine ⟨below, t, made, ?_⟩
    have site := (Leads.content inlines further).site
    rcases shown with contested | ⟨shown, inside, inner⟩
    · exact Or.inl contested
    · cases p with
      | nil =>
        -- The way ends in the content, and members were put over it.
        cases inside
        rw [List.append_nil] at site
        have covers : Covers context first call.visit.site value content := by
          refine ⟨top, fun key => (keys key).imp id ?_⟩
          rintro ⟨object, sibling, below, side, t', stands, descends, made⟩
          exact ⟨below, stands, call, _, side, t', reached, replaces, object, rfl, sibling,
            descends, made⟩
        rw [site] at inner ⊢
        exact Or.inr ⟨value, rfl, covers.trans inner⟩
      | cons key rest =>
        -- Below the first key the value has what the content has, or a member that was put over it.
        rcases keys key with same | ⟨_, sibling, _⟩
        · refine Or.inr ⟨shown, ?_, inner⟩
          rw [Json.find?, same]
          exact inside
        · -- The content has something on the way, and a member beside the reference hides it.
          refine Or.inl ⟨_, content, key, rest, ⟨call, reached, replaces, rfl, sibling⟩, site,
            Or.inr ?_⟩
          rw [inside]
          rfl

end

end SpecTrace
