import SpecTrace.Proofs.Bundle.Below
import SpecTrace.Proofs.Bundle.Spelled
import SpecTrace.Proofs.Bundle.Termination

/-! The calls of a walk that answers: each of them answers as well, and nothing that it made is
taken back before the walk ends. -/

namespace SpecTrace

open Relation

section

variable {context : BundleContext} {depth : Nat} {visit : Visit} {s s' : BundleState}

/-- What a call answers is what the relation says of it. -/
theorem Call.walked {call : Call} {value : Json} (ran : call.run context = (.ok value, s')) :
    Walked context call.depth call.visit call.state value s' := by
  have accounts := run_accounts context call.depth call.visit call.state
  change Accounts context call (call.run context) at accounts
  rw [ran] at accounts
  exact accounts

/-- A reference is answered in one way. -/
theorem Answered.unique {raw : String} {answer answer' : Answer} {t t' : BundleState}
    (one : Answered context depth visit raw s answer t)
    (other : Answered context depth visit raw s answer' t') : answer = answer' ∧ t = t' := by
  -- Both are what the same run answers.
  have same := one.run.symm.trans other.run
  simp only [Prod.mk.injEq, Except.ok.injEq] at same
  exact same

/-- A node is walked in one way. -/
theorem Walked.unique {value value' : Json} {t t' : BundleState}
    (one : Walked context depth visit s value t) (other : Walked context depth visit s value' t') :
    value = value' ∧ t = t' := by
  have same := one.run.symm.trans other.run
  simp only [Prod.mk.injEq, Except.ok.injEq] at same
  exact same

/-- The walk of one among several children begins where those before it end, and its value stands
between theirs and those behind it. -/
theorem WalkedChildren.part {beside : Bool} {before behind : List (String × Node)}
    {segment : String} {node : Node} {members front : List (String × Json)} {s₁ : BundleState}
    (walks : WalkedChildren context depth visit beside (before ++ (segment, node) :: behind) s
      members s')
    (earlier : WalkedChildren context depth visit beside before s front s₁)
    (other : beside = true → segment ≠ referenceKey) :
    ∃ value s₂ back, Walked context depth (visit.child segment node) s₁ value s₂ ∧
      WalkedChildren context depth visit beside behind s₂ back s' ∧
      members = front ++ (segment, value) :: back := by
  -- By induction on the children before it, which both walks go through in the same way.
  induction before generalizing s members front with
  | nil =>
    cases earlier
    cases walks with
    | reference others => exact absurd rfl (other rfl)
    | cons _ walked others => exact ⟨_, _, _, walked, others, rfl⟩
  | cons child rest ih =>
    -- Both walks treat the first child alike.
    cases earlier with
    | reference earlier =>
      cases walks with
      | reference others =>
        obtain ⟨value, s₂, back, walked, later, rfl⟩ := ih others earlier
        exact ⟨value, s₂, back, walked, later, rfl⟩
      | cons walks _ _ => exact absurd rfl (walks rfl)
    | cons skips first earlier =>
      cases walks with
      | reference _ => exact absurd rfl (skips rfl)
      | cons _ again others =>
        obtain ⟨rfl, rfl⟩ := first.unique again
        obtain ⟨value, s₂, back, walked, later, rfl⟩ := ih others earlier
        exact ⟨value, s₂, back, walked, later, rfl⟩

/-- Every member that was walked is that of a child, which is walked behind the children before
it. -/
theorem WalkedChildren.split {beside : Bool} {segment : String} {value : Json} :
    {children : List (String × Node)} → {s s' : BundleState} → {members : List (String × Json)} →
    WalkedChildren context depth visit beside children s members s' →
      lookupMember? members segment = some value → (beside = true → segment ≠ referenceKey) →
        ∃ before node behind front s₁ s₂, children = before ++ (segment, node) :: behind ∧
          lookupMember? children segment = some node ∧
          WalkedChildren context depth visit beside before s front s₁ ∧
          Walked context depth (visit.child segment node) s₁ value s₂
  | _, _, _, _, .nil, found, _ => by cases found
  | _, _, _, _, .reference others, found, other => by
    -- The key is not that of the reference, so the value is one of the others.
    have different := Ne.symm (other rfl)
    rw [lookupMember?_cons, if_neg different] at found
    obtain ⟨before, node, behind, front, s₁, s₂, rfl, held, earlier, walked⟩ :=
      others.split found other
    refine ⟨_ :: before, node, behind, _, s₁, s₂, rfl, ?_, .reference earlier, walked⟩
    rw [lookupMember?_cons, if_neg different, held]
  | (name, first) :: _, _, _, _, .cons walks here others, found, other => by
    rw [lookupMember?_cons] at found
    by_cases same : name = segment
    · subst same
      rw [if_pos rfl] at found
      cases found
      exact ⟨[], first, _, [], _, _, rfl, by rw [lookupMember?_cons, if_pos rfl], .nil, here⟩
    · rw [if_neg same] at found
      obtain ⟨before, node, behind, front, s₁, s₂, rfl, held, earlier, walked⟩ :=
        others.split found other
      -- The first child is one more before it.
      refine ⟨(name, first) :: before, node, behind, _, s₁, s₂, rfl, ?_,
        .cons walks here earlier, walked⟩
      rw [lookupMember?_cons, if_neg same, held]

end

section

variable {context : BundleContext} {call next : Call} {value : Json} {s : BundleState}

/-- A call that answers makes calls that answer. -/
theorem Calls.answers (calls : Calls context call next)
    (ran : call.run context = (.ok value, s)) : ∃ below t, next.run context = (.ok below, t) := by
  cases outcome : next.run context with
  | mk answer t =>
    cases answer with
    | ok below => exact ⟨below, t, rfl⟩
    | error fault =>
      -- Its fault would be that of the caller.
      rw [calls.error outcome] at ran
      cases ran

/-- Relocations that hold their content in a state are there in a later one. -/
def Keeps (s t : BundleState) : Prop :=
  ∀ relocation ∈ s.relocations, relocation.content.isSome → relocation ∈ t.relocations

/-- A walk that only adds relocations keeps those that there were. -/
theorem Settles.keeps {s t : BundleState} (settles : Settles context s t) : Keeps s t := by
  obtain ⟨added, relocations, _⟩ := settles
  intro relocation member _
  rw [relocations]
  exact List.mem_append_left _ member

/-- Between two states, a walk made its steps and kept all content. -/
structure Goes (context : BundleContext) (s t : BundleState) : Prop where
  steps : BundleSteps context s t
  keeps : Keeps s t

/-- A walk goes on where another ends. -/
theorem Goes.trans {s t u : BundleState} (first : Goes context s t) (second : Goes context t u) :
    Goes context s u :=
  ⟨first.steps.trans second.steps, fun relocation member filled =>
    second.keeps relocation (first.keeps relocation member filled) filled⟩

/-- A walk of children goes on without loss. -/
theorem WalkedChildren.goes {depth : Nat} {visit : Visit} {beside : Bool}
    {children : List (String × Node)} {members : List (String × Json)} {s t : BundleState}
    (walks : WalkedChildren context depth visit beside children s members t)
    (separate : Separate context s) : Goes context s t :=
  ⟨walks.steps, (walks.settles separate).keeps⟩

/-- While content is walked, its own relocation is the only one of its source, and it is not
filled yet. -/
theorem Walked.unfilled {depth : Nat} {visit : Visit} {s t : BundleState} {source : Source}
    {destination : Pointer} {content : Json}
    (walked : Walked context depth visit (s.reserve source destination) content t)
    (separate : Separate context (s.reserve source destination)) {relocation : Relocation}
    (member : relocation ∈ t.relocations) (same : relocation.source = source) :
    relocation = ⟨source, destination, none⟩ := by
  obtain ⟨added, relocations, _⟩ := walked.settles separate
  have once := (walked.steps.separate separate).once
  have reserved : (⟨source, destination, none⟩ : Relocation) ∈ t.relocations := by
    rw [relocations]
    simp [BundleState.reserve]
  -- Sources occur once.
  exact List.inj_on_of_nodup_map once member reserved same

/-- Filling in content takes none away that is there already. -/
theorem Walked.goes_fill {depth : Nat} {visit : Visit} {s t : BundleState} {source : Source}
    {destination : Pointer} {content : Json}
    (walked : Walked context depth visit (s.reserve source destination) content t)
    (separate : Separate context (s.reserve source destination)) :
    Goes context t (t.fill source content) := by
  refine ⟨.single (.fill _ _), fun relocation member filled => ?_⟩
  -- The relocation that is filled in held nothing before, so this is another one.
  have other : relocation.source ≠ source := by
    intro same
    rw [walked.unfilled separate member same] at filled
    cases filled
  exact List.mem_map.mpr ⟨relocation, member, by simp [other]⟩

/-- What was walked for a source is in its relocation as soon as it is filled in. -/
theorem Walked.filled {depth : Nat} {visit : Visit} {s t : BundleState} {source : Source}
    {destination : Pointer} {content : Json}
    (walked : Walked context depth visit (s.reserve source destination) content t)
    (separate : Separate context (s.reserve source destination)) :
    (⟨source, destination, some content⟩ : Relocation) ∈ (t.fill source content).relocations := by
  -- What was reserved is still there.
  obtain ⟨added, relocations, _⟩ := walked.settles separate
  refine List.mem_map.mpr ⟨⟨source, destination, none⟩, ?_, by simp⟩
  rw [relocations]
  simp [BundleState.reserve]

end

section

variable {context : BundleContext} {depth : Nat} {visit : Visit} {s s' s₁ : BundleState}
  {value : Json} {raw : String} {version : ApiVersion} {target : Document} {node : Node}

/-- A reference that is moved is answered with its destination, and its content is filled in before
the siblings are walked. -/
theorem Walked.of_moved {destination : Pointer} {below : Json} {t : BundleState}
    (walked : Walked context (depth + 1) visit s value s')
    (refers : visit.node.reference? = some raw)
    (leaves : Leaves context visit.origin.file raw s version target node s₁)
    (new : s₁.known? (sourceIn target raw) = none)
    (chosen : destination? context version (Reference.parse raw) target.path visit.site =
      some destination)
    (free : Free context s₁ (sourceIn target raw) destination)
    (content : Walked context depth ⟨sourceIn target raw, node, destination, []⟩
      (s₁.reserve (sourceIn target raw) destination) below t) :
    ∃ members, WalkedChildren context (depth + 1) visit true visit.node.children
        (t.fill (sourceIn target raw) below) members s' ∧
      value = (Answer.pointing destination).complete members := by
  obtain ⟨answer, s₂, members, answered, siblings, rfl⟩ := walked.of_reference refers
  obtain ⟨rfl, rfl⟩ := answered.unique (.moved leaves new chosen free content)
  exact ⟨members, siblings, rfl⟩

/-- A reference whose content takes its place is answered with that content. -/
theorem Walked.of_replaced {below : Json} {t : BundleState}
    (walked : Walked context (depth + 1) visit s value s')
    (refers : visit.node.reference? = some raw)
    (answered : Answered context depth visit raw s (.replaced below) t) :
    ∃ members, WalkedChildren context (depth + 1) visit true visit.node.children t members s' ∧
      value = overlay below members := by
  obtain ⟨answer, s₂, members, again, siblings, rfl⟩ := walked.of_reference refers
  obtain ⟨rfl, rfl⟩ := answered.unique again
  exact ⟨members, siblings, rfl⟩

/-- From where a call ends to where its caller ends, nothing is lost. -/
theorem Calls.goes {call next : Call} (calls : Calls context call next)
    (separate : Separate context call.state) (ran : call.run context = (.ok value, s')) :
    ∃ below t, next.run context = (.ok below, t) ∧ Goes context t s' := by
  obtain ⟨below, t, answers⟩ := calls.answers ran
  have walked := Call.walked ran
  have inner := Call.walked answers
  have apart := calls.steps.separate separate
  have ending := inner.steps.separate apart
  refine ⟨below, t, answers, ?_⟩
  -- What is left to do when the call has ended depends on what it was made for.
  cases calls with
  | child plain split earlier =>
    obtain ⟨members, children, _⟩ := walked.of_plain plain
    dsimp only at children
    rw [split] at children
    -- The walk goes on with the children behind.
    obtain ⟨_, _, _, again, behind, _⟩ := children.part earlier (by simp)
    obtain ⟨rfl, rfl⟩ := inner.unique again
    exact behind.goes ending
  | sibling refers answered split other earlier =>
    obtain ⟨answer, s₂, members, again, siblings, _⟩ := walked.of_reference refers
    obtain ⟨rfl, rfl⟩ := answered.unique again
    dsimp only at siblings
    rw [split] at siblings
    obtain ⟨_, _, _, same, behind, _⟩ := siblings.part earlier (fun _ => other)
    obtain ⟨rfl, rfl⟩ := inner.unique same
    exact behind.goes ending
  | moved refers leaves new chosen free =>
    -- The content is filled in, and then the siblings are walked.
    have filling := inner.goes_fill apart
    obtain ⟨members, siblings, _⟩ := walked.of_moved refers leaves new chosen free inner
    exact filling.trans (siblings.goes (filling.steps.separate ending))
  | replaced refers leaves new homeless fresh =>
    obtain ⟨members, siblings, _⟩ :=
      walked.of_replaced refers (.replaced leaves new homeless fresh inner)
    exact siblings.goes ending

/-- A call that is reached from one that answers does so itself, and nothing is lost until that one
ends. -/
theorem reached_goes {first last : Call} (separate : Separate context first.state)
    (ran : first.run context = (.ok value, s'))
    (reached : ReflTransGen (Calls context) first last) :
    ∃ below t, last.run context = (.ok below, t) ∧ Goes context t s' := by
  -- Each further call ends before the one that makes it.
  induction reached with
  | refl => exact ⟨value, s', ran, .refl, fun _ member _ => member⟩
  | tail earlier calls ih =>
    obtain ⟨_, _, answers, goes⟩ := ih
    obtain ⟨below, t, inner, further⟩ :=
      calls.goes ((reached_steps earlier).separate separate) answers
    exact ⟨below, t, inner, further.trans goes⟩

end

end SpecTrace
