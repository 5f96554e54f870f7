import SpecTrace.Proofs.Bundle.Below
import SpecTrace.Proofs.Bundle.Copy
import SpecTrace.Proofs.Bundle.Provenance

/-! Where the text of each reference in a bundle comes from: the root file wrote it, or it spells a
node of the root file or a destination. -/

namespace SpecTrace

/-- A reference at a place of the root file stays as it was written, since it targets a node of the
root file. -/
def KeptAsWritten (workspace : Workspace) (root : Document) (p : Pointer) (raw : String) : Prop :=
  ∃ node target, root.root.find? p = some node ∧ node.reference? = some raw ∧
    workspace.target? root.path raw = some (⟨root.path, (Reference.parse raw).pointer⟩, target)

/-- What the text under the key of references at a place of a bundle is. -/
inductive Spelled (context : BundleContext) (workspace : Workspace) (s : BundleState)
    (p : Pointer) (raw : String) : Prop
  /-- It was moved there, or it took the place of a reference. -/
  | carried (recorded : s.provenance.Records (p ++ [referenceKey]))
  /-- It is a reference of the root file to itself. -/
  | kept (written : KeptAsWritten workspace context.root p raw)
  /-- It points at a node of the root file. -/
  | rooted {pointer : Pointer} (text : raw = pointer.fragment)
    (stands : (context.root.root.find? pointer).isSome)
  /-- It points at a destination. -/
  | moved {source : Source} {destination : Pointer} (text : raw = destination.fragment)
    (assigned : s.destination? source = some destination)

/-- Later states know at least as much about a text. -/
theorem Spelled.steps {context : BundleContext} {workspace : Workspace} {s t : BundleState}
    {p : Pointer} {raw : String} (spelled : Spelled context workspace s p raw)
    (steps : BundleSteps context s t) : Spelled context workspace t p raw := by
  -- Records and destinations are kept by steps.
  cases spelled with
  | carried recorded => exact .carried (steps.records recorded)
  | kept written => exact .kept written
  | rooted text stands => exact .rooted text stands
  | moved text assigned => exact .moved text (steps.destination? assigned)

/-- A visit of a node of the root file takes place where the node stands. -/
def Visit.InPlace (context : BundleContext) (visit : Visit) : Prop :=
  visit.origin.file = context.root.path →
    context.root.root.find? visit.site = some visit.node

/-- The children of a node of the root file stand below it. -/
theorem Visit.InPlace.child {context : BundleContext} {visit : Visit}
    (inPlace : visit.InPlace context) (distinct : context.root.root.Distinct) {segment : String}
    {child : Node} (member : (segment, child) ∈ visit.node.children) :
    (visit.child segment child).InPlace context := by
  intro home
  -- The node itself is one of the root file, so it repeats no keys.
  have found := inPlace home
  have below := (distinct.find? found).lookup member
  simp only [Visit.child]
  rw [Node.find?_append, found, Option.bind_some, Node.find?_cons, below, Option.bind_some]
  rfl

section

variable {context : BundleContext} {depth : Nat} {visit : Visit} {s s' : BundleState}

/-- Content that takes the place of a reference is recorded there. -/
theorem Answered.records {raw : String} {content : Json}
    (answered : Answered context depth visit raw s (.replaced content) s') :
    s'.provenance.Records visit.site := by
  cases answered with
  | replaced leaves new homeless fresh walked =>
    -- The record is made before the content is walked.
    exact walked.steps.records (Provenance.records_insert_self _ _ _)

/-- A text is the walked value of a text, unless it was put in its place. -/
theorem Walked.of_string {raw : String} {value : Json}
    (walked : Walked context depth visit s value s') (text : value = .string raw) :
    (∃ span, visit.node = .scalar (.string raw) span) ∨ s'.provenance.Records visit.site := by
  -- A node that is no reference keeps its kind, so a text comes from a text.
  cases walked with
  | scalar shape =>
    rename_i scalar span
    cases scalar with
    | string held =>
      cases text
      exact Or.inl ⟨span, shape⟩
    | _ => cases text
  | sequence _ _ => cases text
  | mapping _ _ _ => cases text
  | reference refers answered siblings =>
    rename_i answer s₁ members
    -- Only content in the place of the reference can be a text.
    cases answer with
    | kept => cases text
    | pointing pointer => cases text
    | replaced content => exact Or.inr (siblings.steps.records answered.records)

end

/-- A child that is a text under the key of references makes its node a reference. -/
theorem Node.reference?_of_child {node : Node} {raw : String} {span : Span}
    (found : lookupMember? node.children referenceKey = some (.scalar (.string raw) span)) :
    node.reference? = some raw := by
  cases node with
  | scalar value span => cases found
  | sequence items span =>
    -- The key is no index.
    rw [Node.children, Node.lookupMember?_indexed_none (by decide)] at found
    cases found
  | mapping entries span =>
    rw [Node.reference?, Node.get?_mapping]
    change lookupMember? (Node.keyed entries) referenceKey = _ at found
    rw [found]

/-- The text of a reference has nothing below it. -/
theorem Node.find?_reference {node inner : Node} {raw : String} {p : Pointer}
    (refers : node.reference? = some raw) (found : node.find? (referenceKey :: p) = some inner) :
    p = [] := by
  rw [find?_cons] at found
  obtain ⟨child, inside, further⟩ := Option.bind_eq_some_iff.mp found
  have text := lookup_of_reference? refers
  rw [inside, Option.map_some, Option.some.injEq] at text
  cases p with
  | nil => rfl
  | cons segment rest =>
    rw [find?_cons] at further
    -- The child is a scalar, so it has no children.
    cases child with
    | scalar value span => cases further
    | sequence items span => cases text
    | mapping entries span => cases text

/-- Below a text there is nothing. -/
theorem Json.find?_string {text : String} {p : Pointer} {value : Json}
    (found : (Json.string text).find? p = some value) : p = [] :=
  @Json.find?_scalar (.string text) p value found

section

variable {context : BundleContext} {workspace : Workspace}

/-- An answer says what the text under the key of references is, unless content takes the place of
the reference. -/
theorem Answered.spelled {depth : Nat} {visit : Visit} {s s₁ s' : BundleState} {raw text : String}
    {answer : Answer} {members : List (String × Json)}
    (answered : Answered context depth visit raw s answer s₁)
    (siblings : WalkedChildren context (depth + 1) visit true visit.node.children s₁ members s')
    (seen : s.session.workspace context.tree = workspace)
    (home : workspace.document? context.root.path = some context.root)
    (inPlace : visit.InPlace context) (refers : visit.node.reference? = some raw)
    (own : answer = .kept ∧ lookupMember? members referenceKey = some (.string text) ∨
      ∃ pointer : Pointer, answer = .pointing pointer ∧ text = pointer.fragment) :
    Spelled context workspace s' visit.site text := by
  -- Each answer spells its text in its own way, or leaves none.
  cases answered with
  | kept reads inRoot inside =>
    rcases own with ⟨_, held⟩ | ⟨_, impossible, _⟩
    · -- The member beside which the siblings were walked is the reference as it was written.
      have spelled := siblings.lookup_reference.trans (lookup_of_reference? refers)
      rw [held] at spelled
      cases spelled
      have leads := reads.target?
      rw [seen, sourceIn, inRoot, inside] at leads
      exact .kept ⟨visit.node, _, inPlace inside, refers, leads⟩
    · cases impossible
  | rooted reads inRoot outside =>
    rcases own with ⟨impossible, _⟩ | ⟨pointer, same, rfl⟩
    · cases impossible
    · cases same
      -- The node that was found stands in the root file.
      have found := Workspace.node?_of_target? reads.target?
      rw [seen, sourceIn, inRoot, Workspace.node?, home, Option.bind_some] at found
      exact .rooted rfl (by rw [found]; rfl)
  | reused leaves known =>
    rcases own with ⟨impossible, _⟩ | ⟨pointer, same, rfl⟩
    · cases impossible
    · cases same
      rename_i target _ relocation
      -- A known source has its destination already.
      have assigned : s₁.destination? (sourceIn target raw) = some relocation.destination := by
        rw [BundleState.destination?, known]
        rfl
      exact .moved rfl (siblings.steps.destination? assigned)
  | moved leaves new chosen free walked =>
    rcases own with ⟨impossible, _⟩ | ⟨pointer, same, rfl⟩
    · cases impossible
    · cases same
      -- The destination was reserved before the content was walked.
      exact .moved rfl (siblings.steps.destination? (walked.destination?_moved new))
  | replaced leaves new homeless fresh walked =>
    -- Content in the place of the reference is no text of it.
    rcases own with ⟨impossible, _⟩ | ⟨_, impossible, _⟩ <;> cases impossible

/-- Content in the place of a reference was walked there, from another file than the root file. -/
theorem Answered.content {depth : Nat} {visit : Visit} {s s' : BundleState} {raw : String}
    {content : Json} (answered : Answered context depth visit raw s (.replaced content) s') :
    ∃ source node inlining s₁, Walked context depth ⟨source, node, visit.site, inlining⟩ s₁ content
      s' ∧ source.file ≠ context.root.path ∧ BundleSteps context s s₁ := by
  -- Only one answer brings content along, and its premises are what is claimed.
  cases answered with
  | replaced leaves new homeless fresh walked =>
    exact ⟨_, _, _, _, walked, leaves.foreign,
      (loadTarget_steps leaves.loaded).tail (.record _ _)⟩

/-- A text under the key of references, where there was no reference, took the place of one. -/
theorem Walked.recorded_text {depth : Nat} {visit : Visit} {s s' : BundleState} {value : Json}
    {raw : String} (walked : Walked context depth visit s value s')
    (plain : visit.node.reference? = none)
    (held : value.child? referenceKey = some (.string raw)) :
    s'.provenance.Records (visit.site ++ [referenceKey]) := by
  obtain ⟨members, children, same⟩ := walked.of_plain plain
  rw [same] at held
  obtain ⟨child, s₁, s₂, inside, walkedChild, _, after⟩ := children.lookup held (by simp)
  -- A child that is a text itself would make the node a reference.
  rcases walkedChild.of_string rfl with ⟨span, text⟩ | recorded
  · change child = _ at text
    subst text
    rw [Node.reference?_of_child inside] at plain
    cases plain
  · exact after.records recorded

/-- The member that makes a reference stays a text, whether it is kept or rewritten. -/
theorem WalkedChildren.text_of_reference {depth : Nat} {visit : Visit} {s s' : BundleState}
    {raw : String} {answer : Answer} {members : List (String × Json)} {below : Json}
    (siblings : WalkedChildren context depth visit true visit.node.children s members s')
    (refers : visit.node.reference? = some raw)
    (own : answer = .kept ∧ lookupMember? members referenceKey = some below ∨
      ∃ pointer : Pointer, answer = .pointing pointer ∧ below = .string pointer.fragment) :
    ∃ text, below = .string text := by
  -- A reference that is kept stays as it was spelled, and one that is rewritten becomes a fragment.
  rcases own with ⟨_, kept⟩ | ⟨pointer, _, text⟩
  · rw [siblings.lookup_reference, lookup_of_reference? refers] at kept
    cases kept
    exact ⟨_, rfl⟩
  · exact ⟨_, text⟩

/-- Every text under the key of references in what is walked at a depth is one that a bundle
spells. -/
def SpelledWithin (context : BundleContext) (workspace : Workspace) (depth : Nat) : Prop :=
  ∀ {p : Pointer} {visit : Visit} {s s' : BundleState} {value : Json} {raw : String},
    Walked context depth visit s value s' → s.session.workspace context.tree = workspace →
      visit.InPlace context → value.find? (p ++ [referenceKey]) = some (.string raw) →
        Spelled context workspace s' (visit.site ++ p) raw

/-- The texts in content that takes the place of a reference are spelled there. -/
theorem Answered.spelled_content {depth : Nat} (inner : SpelledWithin context workspace depth)
    {visit : Visit} {s t t' : BundleState} {written raw : String} {content : Json} {p : Pointer}
    (answered : Answered context depth visit written s (.replaced content) t)
    (after : BundleSteps context t t') (seen : s.session.workspace context.tree = workspace)
    (found : content.find? (p ++ [referenceKey]) = some (.string raw)) :
    Spelled context workspace t' (visit.site ++ p) raw := by
  -- The content is from another file, so its place is not one of the root file.
  obtain ⟨source, node, inlining, s₁, walked, foreign, before⟩ := answered.content
  exact (inner walked (before.workspace.trans seen) (fun inRoot => absurd inRoot foreign)
    found).steps after

/-- The text right below a walked value is spelled, if those in content at smaller depths are. -/
theorem Walked.spelled_here (home : workspace.document? context.root.path = some context.root)
    {depth : Nat} (inner : SpelledWithin context workspace depth) {visit : Visit}
    {s s' : BundleState} {value : Json} {raw : String}
    (walked : Walked context (depth + 1) visit s value s')
    (seen : s.session.workspace context.tree = workspace) (inPlace : visit.InPlace context)
    (held : value.child? referenceKey = some (.string raw)) :
    Spelled context workspace s' visit.site raw := by
  cases refers : visit.node.reference? with
  | none => exact .carried (walked.recorded_text refers held)
  | some written =>
    obtain ⟨answer, s₁, members, answered, siblings, rfl⟩ := walked.of_reference refers
    rcases Answer.child?_complete_cases held with ⟨other, _⟩ | ⟨content, rfl, inside⟩ | ⟨_, own⟩
    · exact absurd rfl other
    · -- The siblings are put over the content, and the reference is not among them.
      have spelled := answered.spelled_content inner (p := []) siblings.steps seen
        (Option.bind_eq_some_iff.mpr ⟨_, inside, rfl⟩)
      rwa [List.append_nil] at spelled
    · exact answered.spelled siblings seen home inPlace refers
        (own.imp id fun ⟨pointer, same, text⟩ => ⟨pointer, same, Json.string.inj text⟩)

/-- Every text under the key of references in a walked value is one that a bundle spells. -/
theorem spelledWithin (home : workspace.document? context.root.path = some context.root)
    (distinct : context.root.root.Distinct) (depth : Nat) :
    SpelledWithin context workspace depth := by
  -- Content in the place of a reference was walked at a smaller depth, children at the same one.
  induction depth with
  | zero => exact fun walked => by cases walked
  | succ depth inner =>
    intro p visit s s' value raw walked seen inPlace found
    induction p generalizing visit s s' value with
    | nil =>
      rw [List.append_nil]
      obtain ⟨below, held, text⟩ := Option.bind_eq_some_iff.mp found
      cases text
      exact walked.spelled_here home inner seen inPlace held
    | cons segment rest ih =>
      obtain ⟨below, held, further⟩ := Option.bind_eq_some_iff.mp found
      have site : visit.site ++ segment :: rest = (visit.site ++ [segment]) ++ rest := by simp
      cases refers : visit.node.reference? with
      | none =>
        -- The text stands in what was walked for a child.
        obtain ⟨members, children, same⟩ := walked.of_plain refers
        rw [same] at held
        obtain ⟨child, s₁, s₂, inside, walkedChild, before, after⟩ :=
          children.lookup held (by simp)
        rw [site]
        exact (ih walkedChild (before.workspace.trans seen)
          (inPlace.child distinct (lookupMember?_mem inside)) further).steps after
      | some written =>
        obtain ⟨answer, s₁, members, answered, siblings, rfl⟩ := walked.of_reference refers
        -- The segment leads to a sibling, into the content, or to the reference itself.
        rcases Answer.child?_complete_cases held with ⟨other, sibling⟩ | ⟨content, rfl, inside⟩ |
          ⟨_, own⟩
        · obtain ⟨child, s₂, s₃, member, walkedChild, before, after⟩ :=
            siblings.member sibling (fun _ => other)
          have saw := before.workspace.trans (answered.steps.workspace.trans seen)
          rw [site]
          exact (ih walkedChild saw (inPlace.child distinct member) further).steps after
        · exact answered.spelled_content inner (p := segment :: rest) siblings.steps seen
            (Option.bind_eq_some_iff.mpr ⟨_, inside, further⟩)
        · -- The text of a reference has nothing below it.
          obtain ⟨text, rfl⟩ := siblings.text_of_reference refers own
          have empty := Json.find?_string further
          simp at empty

end

end SpecTrace
