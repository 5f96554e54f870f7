import SpecTrace.Proofs.Bundle.LongestPrefix
import SpecTrace.Proofs.Bundle.Parts

/-! Who wrote a record: whatever is recorded at a pointer when a walk ends was there before, or it
names the content that the walk entered there last. -/

namespace SpecTrace

open Relation

/-- Content takes the place of the reference that a call comes to. -/
inductive Replaces (context : BundleContext) : Call → Json → Prop
  | intro {depth visit s raw content t} (refers : visit.node.reference? = some raw)
    (answered : Answered context depth visit raw s (.replaced content) t) :
    Replaces context ⟨depth + 1, visit, s⟩ content

/-- A call enters content that a reference leads to, which takes one from its room. -/
def Enters (context : BundleContext) (call next : Call) : Prop :=
  Calls context call next ∧ next.depth < call.depth

/-- In the course of a call, content of an origin was entered at a pointer, and it did not make way
for other content there. -/
def Brings (context : BundleContext) (call : Call) (p : Pointer) (origin : Origin) : Prop :=
  ∃ entering next, ReflTransGen (Calls context) call entering ∧ Enters context entering next ∧
    next.visit.site = p ∧ next.visit.origin = origin ∧ ∀ content, ¬ Replaces context next content

/-- What one of its calls brings is brought by a call. -/
theorem Brings.of_calls {context : BundleContext} {call next : Call} {p : Pointer}
    {origin : Origin} (calls : Calls context call next) (brings : Brings context next p origin) :
    Brings context call p origin := by
  obtain ⟨entering, inner, reached, rest⟩ := brings
  exact ⟨entering, inner, .head calls reached, rest⟩

/-- A record is one that a call brings. -/
def Attributed (context : BundleContext) (call : Call) (p : Pointer) (t : BundleState) : Prop :=
  ∃ origin, t.provenance.at? p = some origin ∧ Brings context call p origin

/-- Records are told by the content that a call enters, if it enters any. -/
def Attributes (context : BundleContext) (call : Call) (p : Pointer) (t : BundleState) : Prop :=
  (t.provenance.at? p = call.state.provenance.at? p ∧
      (call.visit.site = p → ∀ content, ¬ Replaces context call content)) ∨
    Attributed context call p t

/-- What is said about the record at a pointer when a reference is answered. -/
def AttributesReference (context : BundleContext) (depth : Nat) (visit : Visit) (s : BundleState)
    (p : Pointer) (answer : Answer) (t : BundleState) : Prop :=
  (t.provenance.at? p = s.provenance.at? p ∧
      (visit.site = p → ∀ content, answer ≠ .replaced content)) ∨
    Attributed context ⟨depth + 1, visit, s⟩ p t

/-- What is said about the record at a pointer when children were walked. -/
def AttributesChildren (context : BundleContext) (depth : Nat) (visit : Visit) (beside : Bool)
    (children : List (String × Node)) (s : BundleState) (p : Pointer) (t : BundleState) : Prop :=
  t.provenance.at? p = s.provenance.at? p ∨
    ∃ before segment node behind members s₁, children = before ++ (segment, node) :: behind ∧
      (beside = true → segment ≠ referenceKey) ∧
      WalkedChildren context depth visit beside before s members s₁ ∧
      Attributed context ⟨depth, visit.child segment node, s₁⟩ p t

section

variable {context : BundleContext} {depth : Nat} {visit : Visit} {s s₁ t : BundleState}
  {p : Pointer}

/-- A record that is not touched any more stays attributed. -/
theorem Attributed.of_eq {call : Call} (attributed : Attributed context call p s)
    (same : t.provenance.at? p = s.provenance.at? p) : Attributed context call p t := by
  obtain ⟨origin, recorded, brings⟩ := attributed
  exact ⟨origin, same.trans recorded, brings⟩

/-- What one of its calls attributes is attributed by a call. -/
theorem Attributed.of_calls {call next : Call} (calls : Calls context call next)
    (attributed : Attributed context next p t) : Attributed context call p t := by
  obtain ⟨origin, recorded, brings⟩ := attributed
  exact ⟨origin, recorded, brings.of_calls calls⟩

/-- Loading a document records nothing. -/
theorem loadTarget_provenance {reference : Reference} {file : FilePath}
    {answer : Except AuditFault Document}
    (ran : runFrom (loadTarget context reference file) s = (answer, t)) :
    t.provenance = s.provenance := by
  rcases loadTarget_state ran with rfl | ⟨_, _, _, rfl⟩ <;> rfl

/-- Content that is entered where a record was just made is told by that record or a later one. -/
theorem Attributes.entered {entering next : Call} {before : Provenance}
    (enters : Enters context entering next)
    (made : next.state.provenance = before.insert next.visit.site next.visit.origin)
    (attributes : Attributes context next p t) :
    (t.provenance.at? p = before.at? p ∧ next.visit.site ≠ p) ∨
      Attributed context entering p t := by
  rcases attributes with ⟨same, fresh⟩ | attributed
  · by_cases here : next.visit.site = p
    · -- The record at the pointer is still the one that was made for the content.
      refine Or.inr ⟨next.visit.origin, ?_, entering, next, .refl, enters, here, rfl, fresh here⟩
      rw [same, made, ← here, Provenance.at?_insert_self]
    · refine Or.inl ⟨?_, here⟩
      rw [same, made, Provenance.at?_insert_ne (Ne.symm here)]
  · -- Something that was entered inside of the content was recorded later.
    exact Or.inr (attributed.of_calls enters.1)

/-- A child that is walked first is told by its own walk, or the others tell. -/
theorem AttributesChildren.cons {beside : Bool} {segment : String} {node : Node} {value : Json}
    {rest : List (String × Node)} (walks : beside = true → segment ≠ referenceKey)
    (walked : Walked context depth (visit.child segment node) s value s₁)
    (first : Attributes context ⟨depth, visit.child segment node, s⟩ p s₁)
    (others : AttributesChildren context depth visit beside rest s₁ p t) :
    AttributesChildren context depth visit beside ((segment, node) :: rest) s p t := by
  rcases others with same | ⟨before, name, child, behind, members, s₂, rfl, other, earlier, brought⟩
  · -- The others leave the record as it is, so the first child decides.
    rcases first with ⟨kept, _⟩ | brought
    · exact Or.inl (same.trans kept)
    · exact Or.inr ⟨[], segment, node, rest, [], s, rfl, walks, .nil, brought.of_eq same⟩
  · -- One of the others brought the record, and the first child was walked before it.
    exact Or.inr ⟨(segment, node) :: before, name, child, behind, _, s₂, rfl, other,
      .cons walks walked earlier, brought⟩

/-- A node that is no reference has its children to tell. -/
theorem AttributesChildren.plain (plain : visit.node.reference? = none)
    (children : AttributesChildren context (depth + 1) visit false visit.node.children s p t) :
    Attributes context ⟨depth + 1, visit, s⟩ p t := by
  rcases children with
    same | ⟨before, segment, node, behind, members, s₁, split, _, earlier, brought⟩
  · refine Or.inl ⟨same, fun _ content replaces => ?_⟩
    -- Content takes the place of references only.
    cases replaces with
    | intro refers _ =>
      rw [plain] at refers
      cases refers
  · exact Or.inr (brought.of_calls (.child plain split earlier))

/-- A reference is told by its siblings, or else by its answer. -/
theorem AttributesChildren.reference {raw : String} {answer : Answer}
    (refers : visit.node.reference? = some raw)
    (answered : Answered context depth visit raw s answer s₁)
    (told : AttributesReference context depth visit s p answer s₁)
    (siblings : AttributesChildren context (depth + 1) visit true visit.node.children s₁ p t) :
    Attributes context ⟨depth + 1, visit, s⟩ p t := by
  rcases siblings with
    same | ⟨before, segment, node, behind, members, s₂, split, other, earlier, brought⟩
  · rcases told with ⟨kept, never⟩ | brought
    · refine Or.inl ⟨same.trans kept, fun here content replaces => ?_⟩
      -- The reference is answered in one way only.
      cases replaces with
      | intro refersTo again =>
        rw [refers] at refersTo
        cases refersTo
        exact never here content (answered.unique again).1
    · exact Or.inr (brought.of_eq same)
  · -- The siblings are walked after the answer, so what they bring stays.
    exact Or.inr (brought.of_calls (.sibling refers answered split (other rfl) earlier))

end

mutual

/-- The walk of a node tells every record that it leaves behind. -/
theorem Walked.attributes {context : BundleContext} {depth : Nat} {visit : Visit}
    {s s' : BundleState} {value : Json} (p : Pointer) :
    Walked context depth visit s value s' → Attributes context ⟨depth, visit, s⟩ p s'
  -- A scalar has no children, so nothing is recorded below it.
  -- Only a reference records anything; the other nodes pass on what their children told.
  | .scalar shape =>
    AttributesChildren.plain (by rw [shape]; rfl) (Or.inl rfl)
  | .sequence shape children =>
    (children.attributes p).plain (by rw [shape]; rfl)
  | .mapping _ plain children => (children.attributes p).plain plain
  | .reference refers answered siblings =>
    (siblings.attributes p).reference refers answered (answered.attributes p refers)

/-- The answer to a reference tells every record that it leaves behind. -/
theorem Answered.attributes {context : BundleContext} {depth : Nat} {visit : Visit} {raw : String}
    {s s' : BundleState} {answer : Answer} (p : Pointer) :
    Answered context depth visit raw s answer s' → visit.node.reference? = some raw →
      AttributesReference context depth visit s p answer s'
  -- References that are kept, rewritten or reused load at most a document.
  | .kept reads _ _, _ =>
    Or.inl ⟨by rw [loadTarget_provenance reads.loaded], fun _ _ => by simp⟩
  | .rooted reads _ _, _ =>
    Or.inl ⟨by rw [loadTarget_provenance reads.loaded], fun _ _ => by simp⟩
  | .reused leaves _, _ =>
    Or.inl ⟨by rw [loadTarget_provenance leaves.loaded], fun _ _ => by simp⟩
  | .moved leaves new chosen free walked, refers => by
    have enters : Enters context ⟨depth + 1, visit, s⟩ _ :=
      ⟨.moved refers leaves new chosen free, Nat.lt_succ_self depth⟩
    -- Filling in the content records nothing.
    rcases (walked.attributes p).entered enters rfl with ⟨same, _⟩ | brought
    · exact Or.inl ⟨same.trans (by rw [loadTarget_provenance leaves.loaded]), fun _ _ => by simp⟩
    · exact Or.inr brought
  | .replaced leaves new homeless fresh walked, refers => by
    have enters : Enters context ⟨depth + 1, visit, s⟩ _ :=
      ⟨.replaced refers leaves new homeless fresh, Nat.lt_succ_self depth⟩
    -- The record at the site was made right before the content was walked.
    rcases (walked.attributes p).entered enters rfl with ⟨same, elsewhere⟩ | brought
    · exact Or.inl ⟨same.trans (by rw [loadTarget_provenance leaves.loaded]),
        fun here => absurd here elsewhere⟩
    · exact Or.inr brought

/-- The walk of children tells every record that it leaves behind. -/
theorem WalkedChildren.attributes {context : BundleContext} {depth : Nat} {visit : Visit}
    {beside : Bool} {children : List (String × Node)} {s s' : BundleState}
    {members : List (String × Json)} (p : Pointer) :
    WalkedChildren context depth visit beside children s members s' →
      AttributesChildren context depth visit beside children s p s'
  | .nil => Or.inl rfl
  -- What the others brought is found behind one child more.
  | .reference others => by
    rcases others.attributes p with same |
      ⟨before, segment, node, behind, members, s₁, rfl, other, earlier, brought⟩
    · exact Or.inl same
    · exact Or.inr ⟨_ :: before, segment, node, behind, _, s₁, rfl, other, .reference earlier,
        brought⟩
  | .cons walks walked others =>
    (others.attributes p).cons walks walked (walked.attributes p)

end

/-- Every record behind a walk that begins with none names content that the walk entered at its
pointer. -/
theorem Call.brings {context : BundleContext} {call : Call} {value : Json} {s : BundleState}
    {p : Pointer} {origin : Origin} (ran : call.run context = (.ok value, s))
    (clean : call.state.provenance = .empty) (recorded : s.provenance.at? p = some origin) :
    Brings context call p origin := by
  rcases (Call.walked ran).attributes p with ⟨same, _⟩ | ⟨origin', found, brings⟩
  · -- Nothing was recorded at the beginning.
    rw [recorded, clean, Provenance.at?_empty] at same
    cases same
  · rw [recorded] at found
    cases found
    exact brings

end SpecTrace
