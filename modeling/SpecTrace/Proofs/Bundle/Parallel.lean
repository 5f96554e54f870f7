import SpecTrace.Audit.Fault
import SpecTrace.Bundle.Bundle
import SpecTrace.Proofs.Bundle.Loading
import SpecTrace.Proofs.Outcome

/-! Computations that run side by side: from related states they answer alike and end in related
states. A walk sees of its session only what requests for documents answer, so two walks in
different sessions go the same way wherever these are answered alike. -/

namespace SpecTrace

/-! ### Two computations -/

section

variable {σ α β : Type} {R : σ → σ → Prop} {cut : Prop}

/-- Two runs answer alike and end in related states. Where it is allowed, the first run may be cut
off instead. -/
def SameOutcome (R : σ → σ → Prop) (cut : Prop) (first second : Except AuditFault α × σ) : Prop :=
  (cut ∧ first.1 = .error .exhausted) ∨ (first.1 = second.1 ∧ R first.2 second.2)

/-- Two computations have the same outcome wherever related states are given to them. -/
def Parallel (R : σ → σ → Prop) (cut : Prop) (m m' : ExceptT AuditFault (StateM σ) α) : Prop :=
  ∀ s t, R s t → SameOutcome R cut (runFrom m s) (runFrom m' t)

namespace Parallel

variable {m m' : ExceptT AuditFault (StateM σ) α}

/-- A value is answered in every state. -/
theorem pure (a : α) : Parallel R cut (Pure.pure a : ExceptT AuditFault (StateM σ) α)
    (Pure.pure a) :=
  fun _ _ related => Or.inr ⟨rfl, related⟩

/-- A fault is answered in every state. -/
theorem throw (fault : AuditFault) :
    Parallel R cut (MonadExcept.throw fault : ExceptT AuditFault (StateM σ) α)
      (MonadExcept.throw fault) :=
  fun _ _ related => Or.inr ⟨rfl, related⟩

/-- What does not look at the state has the same outcome in every state. -/
theorem lift (answer : Except AuditFault α) :
    Parallel R cut (liftM answer : ExceptT AuditFault (StateM σ) α) (liftM answer) := by
  intro s t related
  simp only [runFrom_lift]
  exact Or.inr ⟨rfl, related⟩

/-- A computation that is never cut off may as well be allowed to be. -/
theorem weaken (parallel : Parallel R False m m') : Parallel R cut m m' := by
  intro s t related
  rcases parallel s t related with ⟨never, _⟩ | same
  · exact never.elim
  · exact Or.inr same

/-- Computations are parallel step by step. -/
theorem bind {f f' : α → ExceptT AuditFault (StateM σ) β} (first : Parallel R cut m m')
    (second : ∀ a, Parallel R cut (f a) (f' a)) : Parallel R cut (m >>= f) (m' >>= f') := by
  intro s t related
  -- What the first steps answer decides how both runs go on.
  have outcome := first s t related
  rw [runFrom_bind, runFrom_bind]
  generalize runFrom m s = ran at outcome
  generalize runFrom m' t = ran' at outcome
  rcases ran with ⟨answer, s₁⟩
  rcases ran' with ⟨answer', t₁⟩
  rcases outcome with ⟨allowed, exhausted⟩ | ⟨same, related⟩
  · -- A run that is cut off in its first step is cut off.
    dsimp only at exhausted
    subst exhausted
    exact Or.inl ⟨allowed, rfl⟩
  · dsimp only at same related
    subst same
    -- The second step runs only behind an answer.
    cases answer with
    | ok a => exact second a s₁ t₁ related
    | error fault => exact Or.inr ⟨rfl, related⟩

/-- A handler goes on behind the same fault. What it handles must not be cut off, since it would
take that for a fault as well. -/
theorem tryCatch {f f' : AuditFault → ExceptT AuditFault (StateM σ) α}
    (first : Parallel R False m m') (second : ∀ fault, Parallel R cut (f fault) (f' fault)) :
    Parallel R cut (MonadExcept.tryCatch m f) (MonadExcept.tryCatch m' f') := by
  intro s t related
  have outcome := first s t related
  rw [runFrom_tryCatch, runFrom_tryCatch]
  generalize runFrom m s = ran at outcome
  generalize runFrom m' t = ran' at outcome
  rcases ran with ⟨answer, s₁⟩
  rcases ran' with ⟨answer', t₁⟩
  rcases outcome with ⟨never, _⟩ | ⟨same, related⟩
  · exact never.elim
  · dsimp only at same related
    subst same
    -- The handler runs only behind a fault.
    cases answer with
    | ok a => exact Or.inr ⟨rfl, related⟩
    | error fault => exact second fault s₁ t₁ related

/-- Steps for the elements of a list are parallel if each of them is. -/
theorem mapM {f f' : α → ExceptT AuditFault (StateM σ) β} (each : ∀ a, Parallel R cut (f a) (f' a))
    (list : List α) : Parallel R cut (list.mapM f) (list.mapM f') := by
  -- By induction on the list.
  induction list with
  | nil => exact pure []
  | cons a rest ih =>
    simp only [List.mapM_cons]
    -- The first element, then the others, then all answers together.
    exact (each a).bind fun b => ih.bind fun others => pure (b :: others)

end Parallel

end

/-! ### Two walks -/

/-- Requests for documents are answered alike in related sessions, and keep them related. -/
def AsksAlike (R : Session → Session → Prop) (tree : FileTree) : Prop :=
  ∀ path, Parallel R False (Session.document tree path) (Session.document tree path)

/-- Two states that differ in their sessions at most, which are related. -/
structure BundleState.Beside (R : Session → Session → Prop) (s t : BundleState) : Prop where
  session : R s.session t.session
  relocations : s.relocations = t.relocations
  provenance : s.provenance = t.provenance

/-- Content that references lead to is walked alike in two ways. -/
def FollowsAlike (R : Session → Session → Prop) (cut : Prop) (follow follow' : Follow) : Prop :=
  ∀ value site, Parallel (BundleState.Beside R) cut (follow value site) (follow' value site)

section

variable {R : Session → Session → Prop} {cut : Prop} {context : BundleContext}
  {follow follow' : Follow}

/-- What runs in parallel in the sessions does so as a step of building a bundle. -/
theorem Parallel.audit {α : Type} {step step' : Auditing α}
    (parallel : Parallel R False step step') :
    Parallel (BundleState.Beside R) cut (Bundling.audit step) (Bundling.audit step') := by
  intro s t related
  rw [runFrom_audit, runFrom_audit]
  -- Only the sessions change; the step cannot be cut off.
  rcases parallel _ _ related.session with ⟨never, _⟩ | ⟨same, sessions⟩
  · exact never.elim
  · exact Or.inr ⟨same, sessions, related.relocations, related.provenance⟩

/-- A change of what both states have alike keeps them alike. -/
theorem Parallel.modify {f : BundleState → BundleState}
    (keeps : ∀ s t, BundleState.Beside R s t → BundleState.Beside R (f s) (f t)) :
    Parallel (BundleState.Beside R) cut (MonadStateOf.modifyGet fun s => ((), f s) : Bundling Unit)
      (MonadStateOf.modifyGet fun s => ((), f s)) :=
  fun s t related => Or.inr ⟨rfl, keeps s t related⟩

/-- Recording an origin changes both states alike. -/
theorem record_parallel (pointer : Pointer) (source : Source) :
    Parallel (BundleState.Beside R) cut (Bundling.record pointer source)
      (Bundling.record pointer source) :=
  .modify fun s t related =>
    ⟨related.session, related.relocations, by simp only [related.provenance]⟩

/-- Filling in content changes both states alike. -/
theorem fill_parallel (source : Source) (content : Json) :
    Parallel (BundleState.Beside R) cut (fill source content) (fill source content) :=
  .modify fun s t related =>
    ⟨related.session, by simp only [related.relocations], related.provenance⟩

/-- A destination is free in both states or in none. -/
theorem reserve_parallel (source : Source) (destination : Pointer) :
    Parallel (BundleState.Beside R) cut (reserve context source destination)
      (reserve context source destination) := by
  -- The two states have the same relocations, so the test comes out alike.
  intro s t related
  simp only [reserve, runFrom_bind, runFrom_get, related.relocations]
  split
  · exact Or.inr ⟨rfl, related⟩
  · exact Or.inr ⟨rfl, related.session, rfl, by simp only [runFrom_set, related.provenance]⟩

/-- The target of a reference is loaded alike. -/
theorem loadTarget_parallel (asks : AsksAlike R context.tree) (reference : Reference)
    (file : FilePath) :
    Parallel (BundleState.Beside R) False (loadTarget context reference file)
      (loadTarget context reference file) := by
  unfold loadTarget
  split
  · exact .audit (asks _)
  · split
    · exact .throw _
    · -- A fault of the request is told in other words, in both runs in the same ones.
      refine .tryCatch (.audit (asks _)) fun fault => ?_
      split
      · exact .throw _
      · exact .throw _

/-- Content is moved alike. -/
theorem relocate_parallel (follows : FollowsAlike R cut follow follow') (source : Source)
    (node : Node) (destination : Pointer) :
    Parallel (BundleState.Beside R) cut (relocate context follow source node destination)
      (relocate context follow' source node destination) :=
  (reserve_parallel source destination).bind fun _ =>
    (follows _ _).bind fun content => fill_parallel source content

/-- Content is inlined alike. -/
theorem inlined_parallel (follows : FollowsAlike R cut follow follow') (source : Source)
    (node : Node) (raw : String) (site : Site) :
    Parallel (BundleState.Beside R) cut (inlined follow source node raw site)
      (inlined follow' source node raw site) := by
  -- Content that is inlined into itself fails on both sides, before anything is recorded.
  unfold inlined
  split
  · exact .throw _
  · exact (record_parallel _ _).bind fun _ => follows _ _

/-- A reference is answered alike. -/
theorem answerReference_parallel (asks : AsksAlike R context.tree)
    (follows : FollowsAlike R cut follow follow') (raw : String) (site : Site) :
    Parallel (BundleState.Beside R) cut (answerReference context follow raw site)
      (answerReference context follow' raw site) := by
  -- Both runs go through the same checks, since these look at what both states have alike.
  unfold answerReference
  dsimp only
  split
  · exact .throw _
  · refine (loadTarget_parallel asks _ _).weaken.bind fun target => ?_
    split
    · exact .throw _
    · split
      · split
        · exact .pure _
        · exact .pure _
      · split
        · exact .throw _
        · -- Both states know the same relocations.
          intro s t related
          simp only [runFrom_bind, runFrom_get, BundleState.known?, related.relocations]
          split
          · exact Or.inr ⟨rfl, related⟩
          · split
            · exact (relocate_parallel follows _ _ _).bind (fun _ => .pure _) s t related
            · exact (inlined_parallel follows _ _ _ _).bind (fun _ => .pure _) s t related

mutual

/-- A value is walked alike. -/
theorem walk_parallel (asks : AsksAlike R context.tree)
    (follows : FollowsAlike R cut follow follow') : ∀ (value : Json) (site : Site),
    Parallel (BundleState.Beside R) cut (walk context follow value site)
      (walk context follow' value site)
  | .object members, site => by
    rw [walk, walk]
    split
    · -- First the reference is answered, then its siblings are walked.
      refine (answerReference_parallel asks follows _ _).bind fun answer => ?_
      exact (walkMembers_parallel asks follows true members site).bind fun _ => .pure _
    · exact (walkMembers_parallel asks follows false members site).bind fun _ => .pure _
  | .array items, site => by
    rw [walk, walk]
    exact (walkItems_parallel asks follows 0 items site).bind fun _ => .pure _
  | .null, _ => .pure _
  | .bool _, _ => .pure _
  | .number _, _ => .pure _
  | .string _, _ => .pure _

/-- Members are walked alike. -/
theorem walkMembers_parallel (asks : AsksAlike R context.tree)
    (follows : FollowsAlike R cut follow follow') (keepReference : Bool) :
    ∀ (members : List (String × Json)) (site : Site),
    Parallel (BundleState.Beside R) cut (walkMembers context follow keepReference members site)
      (walkMembers context follow' keepReference members site)
  -- By recursion on the members; one that is kept is passed on and any other is walked.
  | [], _ => .pure _
  | (key, value) :: rest, site => by
    rw [walkMembers, walkMembers]
    split
    · exact (Parallel.pure value).bind fun _ =>
        (walkMembers_parallel asks follows keepReference rest site).bind fun _ => .pure _
    · exact (walk_parallel asks follows value _).bind fun _ =>
        (walkMembers_parallel asks follows keepReference rest site).bind fun _ => .pure _

/-- Items are walked alike. -/
theorem walkItems_parallel (asks : AsksAlike R context.tree)
    (follows : FollowsAlike R cut follow follow') (index : Nat) :
    ∀ (items : List Json) (site : Site),
    Parallel (BundleState.Beside R) cut (walkItems context follow index items site)
      (walkItems context follow' index items site)
  -- By recursion on the items, with the index of the next one.
  | [], _ => .pure _
  | item :: rest, site => by
    rw [walkItems, walkItems]
    exact (walk_parallel asks follows item _).bind fun _ =>
      (walkItems_parallel asks follows (index + 1) rest site).bind fun _ => .pure _

end

/-- Content is walked alike with the same room. A walk with less room has the same outcome as well,
unless it is cut off. -/
theorem walkWithin_parallel
    (asks : AsksAlike R context.tree) {depth more : Nat} (fits : depth ≤ more)
    (allowed : depth = more ∨ cut) :
    FollowsAlike R cut (walkWithin context depth) (walkWithin context more) := by
  -- By induction on the room that the first walk has.
  induction depth generalizing more with
  | zero =>
    intro value site
    -- Without room, both walks are cut off, or the first one is allowed to be.
    rcases allowed with rfl | cut
    · exact .throw _
    · intro s t _
      exact Or.inl ⟨cut, rfl⟩
  | succ depth ih =>
    obtain ⟨more, rfl⟩ : ∃ below, more = below + 1 := ⟨more - 1, by omega⟩
    -- Every reference that is followed takes one from both depths.
    have below : FollowsAlike R cut (walkWithin context depth) (walkWithin context more) :=
      ih (by omega) (allowed.imp_left (by omega))
    exact walk_parallel asks below

/-- A walk with more room ends in the same way, unless the one with less room is cut off. -/
theorem walkWithin_more {depth more : Nat} (fits : depth ≤ more) (value : Json) (site : Site)
    (s : BundleState) :
    (runFrom (walkWithin context depth value site) s).1 = .error .exhausted ∨
      runFrom (walkWithin context depth value site) s =
        runFrom (walkWithin context more value site) s := by
  -- The walks run side by side in the same session.
  have asks : AsksAlike Eq context.tree := by
    rintro path one other rfl
    exact Or.inr ⟨rfl, rfl⟩
  rcases walkWithin_parallel asks fits (Or.inr trivial) value site s s ⟨rfl, rfl, rfl⟩ with
    ⟨_, exhausted⟩ | ⟨same, states⟩
  · exact Or.inl exhausted
  · refine Or.inr (Prod.ext same ?_)
    revert states
    rcases (runFrom (walkWithin context depth value site) s).2 with ⟨_, _, _⟩
    rcases (runFrom (walkWithin context more value site) s).2 with ⟨_, _, _⟩
    rintro ⟨rfl, rfl, rfl⟩
    rfl

end

end SpecTrace
