import SpecTrace.Proofs.Audit.Steps
import SpecTrace.Proofs.Bundle.Termination

/-! As long as the files stay the same, it makes no difference which documents a session has read:
every step answers what it answers in a new session. -/

namespace SpecTrace

/-- Every document of a session is the one that the file at its path holds. -/
def Session.Current (tree : FileTree) (session : Session) : Prop :=
  ∀ document ∈ session.documents, Session.load tree document.path = .ok document

namespace Session

/-- Nothing was read that could be out of date. -/
theorem current_empty (tree : FileTree) : empty.Current tree :=
  fun _ member => absurd member List.not_mem_nil

/-- Documents that files hold are those that their texts make. -/
theorem Current.faithful {tree : FileTree} {session : Session} (current : session.Current tree) :
    session.Faithful :=
  fun document member => (load_faithful (current document member)).2

/-- In a current session, a request answers what the file holds to which the path leads. -/
theorem Current.answer {tree : FileTree} {session : Session} (current : session.Current tree)
    (path : List PathName) :
    (runFrom (Session.document tree path) session).1 =
      (tree.resolve path).mapError AuditFault.io >>= load tree := by
  rw [runFrom_document]
  cases tree.resolve path with
  | error fault => rfl
  | ok place =>
    simp only [mapError_ok]
    cases known : session.find? place with
    | some document =>
      -- The document that was read is the one that would be read.
      have held := current document (find?_mem known)
      rw [find?_path known] at held
      exact held.symm
    | none =>
      show _ = load tree place
      cases load tree place <;> rfl

/-- A request leaves a current session current. -/
theorem Current.document {tree : FileTree} {session : Session} (current : session.Current tree)
    (path : List PathName) : (runFrom (Session.document tree path) session).2.Current tree := by
  rcases asked : runFrom (Session.document tree path) session with ⟨answer, after⟩
  rcases document_session asked with rfl | ⟨place, read, loaded, rfl⟩
  · exact current
  · intro other member
    simp only [add, List.mem_append, List.mem_singleton] at member
    -- The document that was added is what its file holds.
    rcases member with member | rfl
    · exact current other member
    · rw [(load_faithful loaded).1]
      exact loaded

/-- A document that a current session answers is the one that the file at its path holds. -/
theorem Current.loads {tree : FileTree} {session after : Session} (current : session.Current tree)
    {path : List PathName} {document : Document}
    (asked : runFrom (Session.document tree path) session = (.ok document, after)) :
    load tree document.path = .ok document ∧ after.Current tree := by
  have answer := current.answer path
  have kept := current.document path
  rw [asked] at answer kept
  -- The answer is what the file holds at the place, and that is the path of the document.
  refine ⟨?_, kept⟩
  obtain ⟨place, resolved, _⟩ := document_answer asked
  rw [resolved] at answer
  have held : load tree place = .ok document := answer.symm
  rw [(load_faithful held).1]
  exact held

/-- Two sessions are current. -/
def BothCurrent (tree : FileTree) (s t : Session) : Prop :=
  s.Current tree ∧ t.Current tree

/-- Current sessions answer all requests alike. -/
theorem asks_current (tree : FileTree) : AsksAlike (BothCurrent tree) tree := by
  rintro path s t ⟨first, second⟩
  exact Or.inr ⟨(first.answer path).trans (second.answer path).symm, first.document path,
    second.document path⟩

end Session

/-- Two walks of a root file have the same outcome if the one with less room is not cut off. -/
theorem walk_current {tree : FileTree} {root : Document} {read read' : Session}
    (current : Session.BothCurrent tree read read')
    (fits : walkDepth tree read ≤ walkDepth tree read')
    (ends : ∀ s, ¬ Fails (Bundle.context tree root) (Bundle.start tree read root) .exhausted s) :
    SameOutcome (BundleState.Beside (Session.BothCurrent tree)) False
      ((Bundle.start tree read root).run (Bundle.context tree root))
      ((Bundle.start tree read' root).run (Bundle.context tree root)) := by
  rcases start_sameOutcome (Session.asks_current tree) current fits (Or.inr trivial) root
    with ⟨_, exhausted⟩ | same
  · -- A walk that is cut off comes to a call that raises this fault.
    exfalso
    have accounts : Accounts _ (Bundle.start tree read root)
        ((Bundle.start tree read root).run (Bundle.context tree root)) :=
      run_accounts _ _ _ _
    rcases ran : (Bundle.start tree read root).run (Bundle.context tree root) with ⟨answer, s⟩
    rw [ran] at exhausted accounts
    dsimp only at exhausted
    subst exhausted
    exact ends s accounts
  · exact Or.inr same

/-- Bundles are built alike in current sessions. -/
theorem build_current (tree : FileTree) (path : List PathName) :
    Parallel (Session.BothCurrent tree) False (Bundle.build tree path)
      (Bundle.build tree path) := by
  intro s t related
  refine build_sameOutcome (Session.asks_current tree) related
    fun root read read' current opened opened' => ?_
  -- The sessions may allow for walks of different depth, and neither walk is cut off.
  rcases Nat.le_total (walkDepth tree read) (walkDepth tree read') with fits | fits
  · exact walk_current current fits fun _ => not_exhausted related.1.faithful opened
  · rcases walk_current current.symm fits fun _ => not_exhausted related.2.faithful opened'
      with ⟨never, _⟩ | ⟨same, states⟩
    · exact never.elim
    · exact Or.inr ⟨same.symm, states.session.symm, states.relocations.symm,
        states.provenance.symm⟩

/-- A bundle is built in a current session as it is in a new one. -/
theorem build_fresh {tree : FileTree} {session : Session} (current : session.Current tree)
    (path : List PathName) :
    (runFrom (Bundle.build tree path) session).1 = (runFrom (Bundle.build tree path) .empty).1 := by
  rcases build_current tree path session .empty ⟨current, Session.current_empty tree⟩ with
    ⟨never, _⟩ | ⟨same, _⟩
  · exact never.elim
  · exact same

/-- The session after steps, each of which may have answered or failed. -/
def Session.afterSteps (tree : FileTree) (steps : List AuditStep) : Session :=
  steps.foldl (fun session step => (runFrom (step.run tree) session).2) .empty

/-- Steps leave a session that is current. -/
theorem Session.current_afterSteps (tree : FileTree) (steps : List AuditStep) :
    (Session.afterSteps tree steps).Current tree := by
  have start := Session.current_empty tree
  unfold Session.afterSteps
  generalize Session.empty = session at start
  -- Every step keeps what requests keep.
  induction steps generalizing session with
  | nil => exact start
  | cons step rest ih =>
    exact ih _ (step.run_keeps (P := Session.Current tree)
      (fun path _ current => current.document path) start)

/-- While the files stay the same, every step of an audit has the answer, or the fault, that it has
in a new session, whatever steps came before it and however they ended. -/
theorem earlier_steps_make_no_difference (tree : FileTree) (earlier : List AuditStep)
    (step : AuditStep) :
    (runFrom (step.run tree) (Session.afterSteps tree earlier)).1 =
      (runFrom (step.run tree) .empty).1 := by
  have current : Session.BothCurrent tree (Session.afterSteps tree earlier) .empty :=
    ⟨Session.current_afterSteps tree earlier, Session.current_empty tree⟩
  -- The step runs in the two sessions side by side.
  rcases step.run_parallel (Session.asks_current tree) (build_current tree) _ _ current
    with ⟨never, _⟩ | ⟨same, _⟩
  · exact never.elim
  · exact same

end SpecTrace
