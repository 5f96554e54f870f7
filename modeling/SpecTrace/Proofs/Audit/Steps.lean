import SpecTrace.Locate.Issue
import SpecTrace.Proofs.Bundle.Built
import SpecTrace.Proofs.Bundle.Parallel

/-! The steps of an audit in one session. Each of them sees of the session only what requests for
documents answer. -/

namespace SpecTrace

/-- A step of an audit. -/
inductive AuditStep where
  | document (path : List PathName)
  | bundle (path : List PathName)
  /-- Locates a pointer into a bundle. -/
  | locate (built : Bundle) (pointer : Pointer)
  /-- Locates the issues that a report has with a bundle. -/
  | issues (built : Bundle) (assessment : Assessment)
  | isOpenApi (path : List PathName)

/-- What a step of an audit answers. -/
inductive AuditAnswer where
  | document (document : Document)
  | bundle (bundle : Bundle)
  | location (location : Location)
  | issues (issues : List Issue)
  | isOpenApi (answer : Bool)

/-- What a step does with the files of a tree. -/
def AuditStep.run (tree : FileTree) : AuditStep → Auditing AuditAnswer
  | .document path => do pure (.document (← Session.document tree path))
  | .bundle path => do pure (.bundle (← Bundle.build tree path))
  | .locate built pointer => do
    let locator ← Locator.ofBundle tree built
    pure (.location (← locator.locate pointer))
  | .issues built assessment => do
    let locator ← Locator.ofBundle tree built
    pure (.issues (← locator.issues assessment))
  | .isOpenApi path => pure (.isOpenApi (SpecTrace.isOpenApi tree path))

section

variable {R : Session → Session → Prop} {tree : FileTree}

/-- A root file is walked alike in related sessions that allow for the same depth. A walk that is
allowed less depth may be cut off instead. -/
theorem start_sameOutcome {cut : Prop} {read read' : Session} (asks : AsksAlike R tree)
    (related : R read read') (fits : walkDepth tree read ≤ walkDepth tree read')
    (allowed : walkDepth tree read = walkDepth tree read' ∨ cut) (root : Document) :
    SameOutcome (BundleState.Beside R) cut
      ((Bundle.start tree read root).run (Bundle.context tree root))
      ((Bundle.start tree read' root).run (Bundle.context tree root)) := by
  have requests : AsksAlike R (Bundle.context tree root).tree := asks
  -- Nothing is moved or recorded at the start.
  exact walkWithin_parallel requests fits allowed root.root.toJson ⟨root.path, [], []⟩
    ⟨read, [], .empty⟩ ⟨read', [], .empty⟩ ⟨related, rfl, rfl⟩

/-- A bundle is built alike if the walks of its root file, which two requests answered, have the
same outcome. -/
theorem build_sameOutcome {path : List PathName} {s t : Session}
    (asks : AsksAlike R tree) (related : R s t)
    (walks : ∀ root read read', R read read' →
      runFrom (Session.document tree path) s = (.ok root, read) →
      runFrom (Session.document tree path) t = (.ok root, read') →
      SameOutcome (BundleState.Beside R) False
        ((Bundle.start tree read root).run (Bundle.context tree root))
        ((Bundle.start tree read' root).run (Bundle.context tree root))) :
    SameOutcome R False (runFrom (Bundle.build tree path) s)
      (runFrom (Bundle.build tree path) t) := by
  -- The two requests answer the same root file or fail alike, so the walks are all that is left to
  -- compare.
  rw [Bundle.runFrom_build, Bundle.runFrom_build]
  have outcome := asks path s t related
  cases opened : runFrom (Session.document tree path) s with
  | mk answer read =>
    cases opened' : runFrom (Session.document tree path) t with
    | mk answer' read' =>
      rw [opened, opened'] at outcome
      rcases outcome with ⟨never, _⟩ | ⟨same, sessions⟩
      · exact never.elim
      · dsimp only at same sessions
        subst same
        cases answer with
        | error fault => exact Or.inr ⟨rfl, sessions⟩
        | ok root =>
          -- Behind the same root file, the walks decide.
          have walked := walks root read read' sessions opened opened'
          dsimp only
          generalize (Bundle.start tree read root).run (Bundle.context tree root) = ran at walked
          generalize (Bundle.start tree read' root).run (Bundle.context tree root) = ran' at walked
          rcases ran with ⟨copied, u⟩
          rcases ran' with ⟨copied', u'⟩
          rcases walked with ⟨never, _⟩ | ⟨same, states⟩
          · exact never.elim
          · dsimp only at same states
            subst same
            cases copied with
            | error fault => exact Or.inr ⟨rfl, states.session⟩
            | ok document =>
              -- The same content goes to the same destinations.
              dsimp only
              rw [states.relocations, states.provenance]
              cases Bundle.place document u'.relocations with
              | error fault => exact Or.inr ⟨rfl, states.session⟩
              | ok placed => exact Or.inr ⟨rfl, states.session⟩

/-- A locator is opened alike, and works with the files of the tree. -/
theorem ofBundle_parallel {α : Type} (asks : AsksAlike R tree) (bundle : Bundle)
    {f f' : Locator → Auditing α}
    (goesOn : ∀ locator : Locator, locator.tree = tree →
      Parallel R False (f locator) (f' locator)) :
    Parallel R False (Locator.ofBundle tree bundle >>= f)
      (Locator.ofBundle tree bundle >>= f') := by
  simp only [Locator.ofBundle, bind_assoc, pure_bind]
  exact Parallel.bind (asks _) fun root => goesOn _ rfl

namespace Locator

variable {locator : Locator}

/-- A pointer is located alike. -/
theorem locate_parallel (asks : AsksAlike R locator.tree) (pointer : Pointer) :
    Parallel R False (locator.locate pointer) (locator.locate pointer) := by
  unfold locate
  -- Both sides look at the same root file and the same records, so only the last request differs.
  split
  · exact .pure _
  · split
    · exact .throw _
    · refine (asks _).bind fun document => ?_
      split
      · exact .pure _
      · exact .throw _

/-- An issue is located alike, whether its pointer leads somewhere or not. -/
theorem issue_parallel (asks : AsksAlike R locator.tree) (index : PointerTable)
    (context : GroupContext) (sub : SubIssue) :
    Parallel R False (locator.issue index context sub) (locator.issue index context sub) := by
  unfold issue
  split
  · exact .throw _
  · refine Parallel.bind ?_ fun location => .pure _
    -- A pointer that leads nowhere is no fault of the audit.
    refine .tryCatch ((locate_parallel asks _).bind fun _ => .pure _) fun fault => ?_
    split
    · exact .pure _
    · exact .throw _

/-- The issues of a report are located alike. -/
theorem issues_parallel (asks : AsksAlike R locator.tree) (assessment : Assessment) :
    Parallel R False (locator.issues assessment) (locator.issues assessment) := by
  -- The groups are gone through in the same order on both sides.
  refine Parallel.bind (Parallel.bind (Parallel.mapM ?_ _) fun _ => .pure _) fun _ => .pure _
  rintro ⟨default, id, group⟩
  exact (Parallel.lift _).bind fun severity => Parallel.mapM (issue_parallel asks _ _) _

end Locator

/-- A step is made alike if bundles are built alike. -/
theorem AuditStep.run_parallel (asks : AsksAlike R tree)
    (builds : ∀ path, Parallel R False (Bundle.build tree path) (Bundle.build tree path))
    (step : AuditStep) : Parallel R False (step.run tree) (step.run tree) := by
  -- Only the steps that build bundles need more than requests that are answered alike.
  cases step with
  | document path => exact (asks path).bind fun _ => .pure _
  | bundle path => exact (builds path).bind fun _ => .pure _
  | locate built pointer =>
    refine ofBundle_parallel asks built fun locator same => ?_
    exact (Locator.locate_parallel (same ▸ asks) pointer).bind fun _ => .pure _
  | issues built assessment =>
    refine ofBundle_parallel asks built fun locator same => ?_
    exact (Locator.issues_parallel (same ▸ asks) assessment).bind fun _ => .pure _
  | isOpenApi path => exact .pure _

end

/-- What every request for a document keeps of the session, every step keeps. -/
theorem AuditStep.run_keeps {tree : FileTree} {P : Session → Prop}
    (keeps : ∀ path s, P s → P (runFrom (Session.document tree path) s).2) (step : AuditStep)
    {s : Session} (holds : P s) : P (runFrom (step.run tree) s).2 := by
  -- The step runs beside itself, in the same session with the property.
  have asks : AsksAlike (fun s t => s = t ∧ P s) tree := by
    rintro path s t ⟨rfl, holds⟩
    exact Or.inr ⟨rfl, rfl, keeps path s holds⟩
  have builds : ∀ path, Parallel (fun s t => s = t ∧ P s) False (Bundle.build tree path)
      (Bundle.build tree path) := by
    intro path s t related
    refine build_sameOutcome asks related fun root read read' sessions _ _ => ?_
    have same := congrArg (walkDepth tree) sessions.1
    exact start_sameOutcome asks sessions (Nat.le_of_eq same) (Or.inl same) root
  rcases step.run_parallel asks builds s s ⟨rfl, holds⟩ with ⟨never, _⟩ | ⟨_, _, kept⟩
  · exact never.elim
  · exact kept

end SpecTrace
