import SpecTrace.Proofs.Bundle.Attribution

/-! The ways on which calls are reached. Each begins at the root file or at moved content, and leads
down through children, siblings and content in the place of references. -/

namespace SpecTrace

open Relation

section

variable {context : BundleContext} {call next : Call}

/-- A call goes on at a child of its node. -/
def Descends (context : BundleContext) (call : Call) (segment : String) (next : Call) : Prop :=
  Calls context call next ∧ next.depth = call.depth ∧
    next.visit.site = call.visit.site ++ [segment]

/-- A call goes on in content that takes the place of its reference. -/
def Inlines (context : BundleContext) (call next : Call) : Prop :=
  Enters context call next ∧ next.visit.inlining ≠ []

/-- A call goes on in content that moves. Only such content has nothing inlined around it. -/
def Moves (context : BundleContext) (call next : Call) : Prop :=
  Enters context call next ∧ next.visit.inlining = []

/-- Every call goes on at a child, in the place of a reference, or in content that moves. -/
theorem Calls.cases (calls : Calls context call next) :
    (∃ segment, Descends context call segment next) ∨ Inlines context call next ∨
      Moves context call next := by
  have same := calls
  -- The depth tells children from content, and what is being inlined tells content from content.
  cases calls with
  | child _ _ _ => exact Or.inl ⟨_, same, rfl, rfl⟩
  | sibling _ _ _ _ _ => exact Or.inl ⟨_, same, rfl, rfl⟩
  | moved _ _ _ _ _ => exact Or.inr (Or.inr ⟨⟨same, Nat.lt_succ_self _⟩, rfl⟩)
  | replaced _ _ _ _ _ =>
    exact Or.inr (Or.inl ⟨⟨same, Nat.lt_succ_self _⟩, List.cons_ne_nil _ _⟩)

/-- A call goes on at a child that the segment names. -/
theorem Descends.child {segment : String} (descends : Descends context call segment next) :
    ∃ node, (segment, node) ∈ call.visit.node.children ∧
      next.visit = call.visit.child segment node := by
  obtain ⟨calls, level, site⟩ := descends
  cases calls with
  | child _ split _ =>
    -- The site of the child tells its segment.
    obtain rfl := (List.append_singleton_inj.mp site).2
    exact ⟨_, by rw [split]; simp, rfl⟩
  | sibling _ _ split _ _ =>
    obtain rfl := (List.append_singleton_inj.mp site).2
    exact ⟨_, by rw [split]; simp, rfl⟩
  | moved _ _ _ _ _ => exact absurd level.symm (Nat.succ_ne_self _)
  | replaced _ _ _ _ _ => exact absurd level.symm (Nat.succ_ne_self _)

/-- Content that takes the place of a reference goes where the reference stood. -/
theorem Inlines.site (inlines : Inlines context call next) :
    next.visit.site = call.visit.site := by
  obtain ⟨⟨calls, inside⟩, filled⟩ := inlines
  -- Children use up no depth, and content that moves has nothing inlined around it.
  cases calls with
  | child _ _ _ => exact absurd inside (Nat.lt_irrefl _)
  | sibling _ _ _ _ _ => exact absurd inside (Nat.lt_irrefl _)
  | moved _ _ _ _ _ => exact absurd rfl filled
  | replaced _ _ _ _ _ => rfl

/-- Only references are entered. -/
theorem Enters.refers (enters : Enters context call next) :
    ∃ raw, call.visit.node.reference? = some raw := by
  obtain ⟨calls, inside⟩ := enters
  -- Children use up no depth.
  cases calls with
  | child _ _ _ => exact absurd inside (Nat.lt_irrefl _)
  | sibling _ _ _ _ _ => exact absurd inside (Nat.lt_irrefl _)
  | moved refers _ _ _ _ => exact ⟨_, refers⟩
  | replaced refers _ _ _ _ => exact ⟨_, refers⟩

end

/-- A way from a call down to another, along which the value of the other becomes part of that of
the first; the segments are those between their sites. -/
inductive Leads (context : BundleContext) : Call → Pointer → Call → Prop
  | here {call} : Leads context call [] call
  | child {call segment next p last} (descends : Descends context call segment next)
    (further : Leads context next p last) : Leads context call (segment :: p) last
  | content {call next p last} (inlines : Inlines context call next)
    (further : Leads context next p last) : Leads context call p last

section

variable {context : BundleContext} {call next last : Call} {p q : Pointer}

/-- What a way leads to is reached. -/
theorem Leads.reached (leads : Leads context call p last) :
    ReflTransGen (Calls context) call last := by
  -- By induction on the way.
  induction leads with
  | here => exact .refl
  | child descends _ ih => exact .head descends.1 ih
  | content inlines _ ih => exact .head inlines.1.1 ih

/-- The segments of a way lead from site to site. -/
theorem Leads.site (leads : Leads context call p last) :
    last.visit.site = call.visit.site ++ p := by
  -- By induction on the way: only children add segments.
  induction leads with
  | here => rw [List.append_nil]
  | child descends _ ih => rw [ih, descends.2.2, List.append_assoc, List.singleton_append]
  | content inlines _ ih => rw [ih, inlines.site]

/-- Ways are put together. -/
theorem Leads.trans (first : Leads context call p next) (second : Leads context next q last) :
    Leads context call (p ++ q) last := by
  induction first with
  | here => exact second
  | child descends _ ih => exact .child descends (ih second)
  | content inlines _ ih => exact .content inlines (ih second)

/-- A way comes to a call at each site that it passes. -/
theorem Leads.split (leads : Leads context call (p ++ q) last) :
    ∃ middle, Leads context call p middle ∧ Leads context middle q last := by
  -- Only steps to children use up segments.
  generalize passed : p ++ q = whole at leads
  induction leads generalizing p with
  | here =>
    obtain ⟨rfl, rfl⟩ := List.append_eq_nil_iff.mp passed
    exact ⟨_, .here, .here⟩
  | child descends further ih =>
    -- The call is passed here, or behind the segment.
    cases p with
    | nil =>
      change q = _ at passed
      subst passed
      exact ⟨_, .here, .child descends further⟩
    | cons segment rest =>
      obtain ⟨rfl, behind⟩ := List.cons_eq_cons.mp passed
      obtain ⟨middle, above, below⟩ := ih behind
      exact ⟨middle, .child descends above, below⟩
  | content inlines _ ih =>
    obtain ⟨middle, above, below⟩ := ih passed
    exact ⟨middle, .content inlines above, below⟩

/-- A way that passes no reference leads to the node that its segments lead to. -/
theorem Leads.plain (leads : Leads context call p last) (distinct : call.visit.node.Distinct)
    (plain : ∀ u, u <+: p → ∀ inner, call.visit.node.find? u = some inner →
      inner.reference? = none) :
    call.visit.node.find? p = some last.visit.node ∧
      last.visit.origin = call.visit.origin.below p := by
  induction leads with
  | here => exact ⟨rfl, (Origin.below_nil _).symm⟩
  | content inlines _ _ =>
    -- The call itself would be one of a reference.
    obtain ⟨raw, refers⟩ := inlines.1.refers
    rw [plain [] List.nil_prefix _ rfl] at refers
    cases refers
  | @child call segment next p last descends _ ih =>
    obtain ⟨node, member, same⟩ := descends.child
    have known := distinct.lookup member
    rw [same] at ih
    -- Below the child, the way goes on as before.
    obtain ⟨found, origin⟩ := ih (distinct.child member) fun u inside inner leads => by
      refine plain (segment :: u) (List.cons_prefix_cons.mpr ⟨rfl, inside⟩) inner ?_
      rw [Node.find?_cons, known]
      exact leads
    refine ⟨?_, ?_⟩
    · rw [Node.find?_cons, known]
      exact found
    · rw [origin]
      exact Origin.below_below _ _ _

/-- The calls at which ways begin: the first one, and those of content that moves. -/
def Begins (context : BundleContext) (first base : Call) : Prop :=
  base = first ∨ ∃ caller, ReflTransGen (Calls context) first caller ∧ Moves context caller base

/-- Where a way begins is reached. -/
theorem Begins.reached {first base : Call} (begins : Begins context first base) :
    ReflTransGen (Calls context) first base := by
  rcases begins with rfl | ⟨caller, reached, moves⟩
  · exact .refl
  · exact reached.tail moves.1.1

/-- Every call that is reached is at the end of a way. -/
theorem begins_of_reached {first call : Call} (reached : ReflTransGen (Calls context) first call) :
    ∃ base p, Begins context first base ∧ Leads context base p call := by
  -- By induction on the calls that are made on the way.
  induction reached with
  | refl => exact ⟨first, [], Or.inl rfl, .here⟩
  | tail earlier calls ih =>
    obtain ⟨base, p, begins, leads⟩ := ih
    -- The way goes on, or a new one begins.
    rcases calls.cases with ⟨segment, descends⟩ | inlines | moves
    · exact ⟨base, p ++ [segment], begins, leads.trans (.child descends .here)⟩
    · exact ⟨base, p ++ [], begins, leads.trans (.content inlines .here)⟩
    · exact ⟨_, [], Or.inr ⟨_, earlier, moves⟩, .here⟩

/-- Content that is entered is at the end of a way. -/
theorem begins_of_enters {first call : Call} (reached : ReflTransGen (Calls context) first call)
    (enters : Enters context call next) :
    ∃ base p, Begins context first base ∧ Leads context base p next :=
  begins_of_reached (reached.tail enters.1)

end

section

variable {context : BundleContext} {first caller base : Call} {copied : Json} {s : BundleState}

/-- Content that moves is in its relocation when the walk ends. -/
theorem Moves.held (separate : Separate context first.state)
    (ran : first.run context = (.ok copied, s))
    (reached : ReflTransGen (Calls context) first caller) (moves : Moves context caller base) :
    ∃ content t, base.run context = (.ok content, t) ∧
      (⟨base.visit.origin, base.visit.site, some content⟩ : Relocation) ∈ s.relocations := by
  -- The content is walked for a destination, which is reserved before and filled after that.
  obtain ⟨⟨calls, inside⟩, lone⟩ := moves
  obtain ⟨value, s', answers, goes⟩ := reached_goes separate ran reached
  obtain ⟨content, t, inner⟩ := calls.answers answers
  have apart := calls.steps.separate ((reached_steps reached).separate separate)
  have walked := Call.walked inner
  refine ⟨content, t, inner, goes.keeps _ ?_ rfl⟩
  cases calls with
  | child _ _ _ => exact absurd inside (Nat.lt_irrefl _)
  | sibling _ _ _ _ _ => exact absurd inside (Nat.lt_irrefl _)
  | replaced _ _ _ _ _ => exact absurd lone (List.cons_ne_nil _ _)
  | moved refers leaves new chosen free =>
    -- It is filled in when its walk ends, and the siblings that follow keep it.
    obtain ⟨members, siblings, _⟩ :=
      (Call.walked answers).of_moved refers leaves new chosen free walked
    have filling := walked.goes_fill apart
    have ending := filling.steps.separate (walked.steps.separate apart)
    exact (siblings.goes ending).keeps _ (walked.filled apart) rfl

end

end SpecTrace
