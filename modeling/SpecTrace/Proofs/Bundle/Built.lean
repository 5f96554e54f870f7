import SpecTrace.Proofs.Bundle.Failures
import SpecTrace.Proofs.Bundle.Invariants
import SpecTrace.Proofs.Bundle.Placing

/-! Building a bundle: the walk of the root file, and the states that it comes to. -/

namespace SpecTrace

open Relation

namespace Bundle

/-- What stays the same while a root file is bundled. -/
def context (tree : FileTree) (root : Document) : BundleContext :=
  ⟨tree, root, ApiVersion.detect? root.value⟩

/-- The call that a bundle begins with. -/
def start (tree : FileTree) (session : Session) (root : Document) : Call :=
  ⟨walkDepth tree session, ⟨⟨root.path, []⟩, root.root, [], []⟩, ⟨session, [], .empty⟩⟩

/-- The call that a bundle begins with walks the value of the root file. -/
theorem run_start (tree : FileTree) (session : Session) (root : Document) :
    (start tree session root).run (context tree root) =
      runFrom (walkWithin (context tree root) (walkDepth tree session) root.value
        ⟨root.path, [], []⟩) ⟨session, [], .empty⟩ := by
  -- The walk takes the value that the document stores, and the document proves which one it is.
  unfold Call.run start
  dsimp only
  rw [← root.valued]
  rfl

/-- Building reads the root file, walks it, and puts moved content at its destinations. -/
theorem runFrom_build (tree : FileTree) (path : List PathName) (session : Session) :
    runFrom (build tree path) session =
      match runFrom (Session.document tree path) session with
      | (.error fault, read) => (.error fault, read)
      | (.ok root, read) =>
        match (start tree read root).run (context tree root) with
        | (.error fault, s) => (.error fault, s.session)
        | (.ok copied, s) =>
          match place copied s.relocations with
          | .error fault => (.error fault, s.session)
          | .ok placed =>
            (.ok ⟨root.path, (context tree root).version, placed, s.provenance⟩, s.session) := by
  unfold build
  rw [runFrom_bind]
  rcases runFrom (Session.document tree path) session with ⟨opened, read⟩
  -- A root file that cannot be read ends the run.
  cases opened with
  | error fault => rfl
  | ok root =>
    dsimp only
    rw [run_start]
    unfold ofDocument
    simp only [runFrom_bind, runFrom_get]
    change (fun walked : Except AuditFault Json × BundleState =>
      runFrom (do
        set walked.2.session
        match walked.1 with
        | .error fault => throw fault
        | .ok document => do
          let placed ← liftM (place document walked.2.relocations)
          pure (⟨root.path, (context tree root).version, placed, walked.2.provenance⟩ : Bundle) :
          Auditing Bundle) read)
      (runFrom (walkWithin (context tree root) (walkDepth tree read) root.value
        ⟨root.path, [], []⟩) ⟨read, [], .empty⟩) = _
    -- The session of the walk is kept, whether the walk fails or answers.
    rcases runFrom (walkWithin (context tree root) (walkDepth tree read) root.value
      ⟨root.path, [], []⟩) ⟨read, [], .empty⟩ with ⟨answer, s⟩
    simp only [runFrom_bind, runFrom_set]
    cases answer with
    | error fault => rfl
    | ok copied =>
      simp only [runFrom_bind, runFrom_lift]
      cases place copied s.relocations <;> rfl

/-- What lies behind a bundle: the root file that was read, its walk, and the state it ended in. -/
structure Made (tree : FileTree) (path : List PathName) (session : Session) (bundle : Bundle)
    (root : Document) (read : Session) (copied : Json) (s : BundleState) : Prop where
  opened : runFrom (Session.document tree path) session = (.ok root, read)
  ran : (start tree read root).run (context tree root) = (.ok copied, s)
  placed : place copied s.relocations = .ok bundle.document
  rootFile : bundle.rootFile = root.path
  provenance : bundle.provenance = s.provenance

/-- Every bundle was made by a walk of its root file. -/
theorem made_of_build {tree : FileTree} {path : List PathName} {session after : Session}
    {bundle : Bundle} (built : runFrom (build tree path) session = (.ok bundle, after)) :
    ∃ root read copied s, Made tree path session bundle root read copied s := by
  rw [runFrom_build] at built
  -- Three parts can fail, each of which would leave no bundle: reading, walking and placing.
  cases opened : runFrom (Session.document tree path) session with
  | mk answer read =>
    rw [opened] at built
    cases answer with
    | error fault => cases built
    | ok root =>
      dsimp only at built
      cases ran : (start tree read root).run (context tree root) with
      | mk answer s =>
        rw [ran] at built
        cases answer with
        | error fault => cases built
        | ok copied =>
          dsimp only at built
          cases placed : place copied s.relocations with
          | error fault =>
            rw [placed] at built
            cases built
          | ok document =>
            rw [placed] at built
            cases built
            -- All three parts answered.
            exact ⟨root, read, copied, s, opened, ran, placed, rfl, rfl⟩

/-- The root file that was read is the one behind a bundle. -/
theorem made_of_opened {tree : FileTree} {path : List PathName} {session read after : Session}
    {root : Document} {bundle : Bundle}
    (opened : runFrom (Session.document tree path) session = (.ok root, read))
    (built : runFrom (build tree path) session = (.ok bundle, after)) :
    ∃ copied s, Made tree path session bundle root read copied s := by
  obtain ⟨root', read', copied, s, made⟩ := made_of_build built
  -- The file is read in one way.
  have same := made.opened
  rw [opened] at same
  cases same
  exact ⟨copied, s, made⟩

/-- The walk of the root file that was read is the one behind a bundle. -/
theorem made_of_run {tree : FileTree} {path : List PathName} {session read after : Session}
    {root : Document} {copied : Json} {s : BundleState} {bundle : Bundle}
    (opened : runFrom (Session.document tree path) session = (.ok root, read))
    (ran : (start tree read root).run (context tree root) = (.ok copied, s))
    (built : runFrom (build tree path) session = (.ok bundle, after)) :
    Made tree path session bundle root read copied s := by
  obtain ⟨copied', s', made⟩ := made_of_opened opened built
  -- The file is walked in one way.
  have same := made.ran
  rw [ran] at same
  cases same
  exact made

/-- A root file that is read, walked and placed makes a bundle. -/
theorem build_of_placed {tree : FileTree} {path : List PathName} {session read : Session}
    {root : Document} {copied document : Json} {s : BundleState}
    (opened : runFrom (Session.document tree path) session = (.ok root, read))
    (ran : (start tree read root).run (context tree root) = (.ok copied, s))
    (placed : place copied s.relocations = .ok document) :
    runFrom (build tree path) session =
      (.ok ⟨root.path, (context tree root).version, document, s.provenance⟩, s.session) := by
  simp only [runFrom_build, opened, ran, placed]

/-- A bundle whose walk fails is not built. -/
theorem build_of_run_error {tree : FileTree} {path : List PathName} {session read : Session}
    {root : Document} {fault : AuditFault} {s : BundleState}
    (opened : runFrom (Session.document tree path) session = (.ok root, read))
    (failed : (start tree read root).run (context tree root) = (.error fault, s)) :
    runFrom (build tree path) session = (.error fault, s.session) := by
  simp only [runFrom_build, opened, failed]

/-- Content that cannot be placed is a collision. -/
theorem place_error {document : Json} {relocations : List Relocation} {fault : AuditFault}
    (failed : place document relocations = .error fault) : ∃ pointer, fault = .collision pointer := by
  -- The first content that cannot be put is the one that is reported.
  induction relocations generalizing document with
  | nil => cases failed
  | cons relocation rest ih =>
    unfold place at failed
    split at failed
    · exact ih failed
    · cases failed
      exact ⟨_, rfl⟩

/-- A bundle is not built because the root file cannot be read, because its walk fails, or because
content collides. -/
theorem build_error_cases {tree : FileTree} {path : List PathName} {session after : Session}
    {fault : AuditFault} (failed : runFrom (build tree path) session = (.error fault, after)) :
    fault.IsReading ∨ (∃ pointer, fault = .collision pointer) ∨
      ∃ root read s, runFrom (Session.document tree path) session = (.ok root, read) ∧
        Fails (context tree root) (start tree read root) fault s := by
  -- The three causes are the three steps of building, told apart by how far it came.
  rw [runFrom_build] at failed
  cases opened : runFrom (Session.document tree path) session with
  | mk answer read =>
    rw [opened] at failed
    cases answer with
    | error cause =>
      cases failed
      exact Or.inl (Session.document_fault opened)
    | ok root =>
      -- The root file was read, so the walk or the placing failed.
      dsimp only at failed
      have accounts := run_accounts (context tree root) (start tree read root).depth
        (start tree read root).visit (start tree read root).state
      change Accounts _ _ ((start tree read root).run (context tree root)) at accounts
      cases ran : (start tree read root).run (context tree root) with
      | mk answer s =>
        rw [ran] at failed accounts
        cases answer with
        | error cause =>
          cases failed
          exact Or.inr (Or.inr ⟨root, read, s, rfl, accounts⟩)
        | ok copied =>
          dsimp only at failed
          cases placed : place copied s.relocations with
          | error cause =>
            rw [placed] at failed
            cases failed
            exact Or.inr (Or.inl (place_error placed))
          | ok document =>
            rw [placed] at failed
            cases failed

variable {tree : FileTree} {path : List PathName} {session : Session} {bundle : Bundle}
  {root : Document} {read : Session} {copied : Json} {s : BundleState}

/-- The walk behind a bundle, as the relation knows it. -/
theorem Made.walked (made : Made tree path session bundle root read copied s) :
    Walked (context tree root) (walkDepth tree read) ⟨⟨root.path, []⟩, root.root, [], []⟩
      ⟨read, [], .empty⟩ copied s := by
  -- Every run is accounted for, and the account of a run that succeeds is the relation.
  have accounts := run_accounts (context tree root) (start tree read root).depth
    (start tree read root).visit (start tree read root).state
  change Accounts _ _ ((start tree read root).run (context tree root)) at accounts
  rw [made.ran] at accounts
  exact accounts

/-- No place has another document after the walk than it had before the root file was read. -/
theorem Made.documents (made : Made tree path session bundle root read copied s) :
    s.session.documentAt? tree = session.documentAt? tree :=
  (made.walked.steps.documents).trans (Session.document_keeps made.opened)

/-- The files look the same after the walk as before the root file was read. -/
theorem Made.workspace (made : Made tree path session bundle root read copied s) :
    s.session.workspace tree = session.workspace tree := by
  rw [Session.workspace, Session.workspace, made.documents]

/-- The sources behind a bundle are separate. -/
theorem Made.separate (made : Made tree path session bundle root read copied s) :
    Separate (context tree root) s :=
  made.walked.steps.separate (separate_empty _ _)

/-- A place of the root file is neither a destination nor below one. -/
theorem Made.outside (made : Made tree path session bundle root read copied s) {p : Pointer}
    {node : Node} (held : root.root.find? p = some node) : Outside s.relocations p := by
  -- A destination is no place of the root file, and nothing is found below one that is none.
  rintro relocation member ⟨rest, rfl⟩
  have vacant : root.root.find? relocation.destination = none :=
    made.separate.vacant relocation member
  rw [Node.find?_append, vacant] at held
  cases held

/-- Every relocation behind a bundle holds walked content, which is found at its destination. -/
theorem Made.settled (made : Made tree path session bundle root read copied s)
    {relocation : Relocation} (member : relocation ∈ s.relocations) :
    ∃ node content, Settled (context tree root) s relocation node content ∧
      bundle.document.find? relocation.destination = some content := by
  -- The walk began with no relocations, so it added all of them.
  obtain ⟨added, relocations, settled⟩ := made.walked.settles (separate_empty _ _)
  rw [List.nil_append] at relocations
  obtain ⟨node, content, held⟩ := settled relocation (relocations ▸ member)
  refine ⟨node, content, held, ?_⟩
  -- Other content went to unrelated destinations.
  rw [find?_place_destination made.placed made.separate.pairwise member, held.held]
  rfl

/-- The sources that move when a file is bundled, with their destinations. -/
def moves (tree : FileTree) (path : List PathName) (session : Session) :
    List (Source × Pointer) :=
  match runFrom (Session.document tree path) session with
  | (.ok root, read) =>
    ((start tree read root).run (context tree root)).2.relocations.map fun relocation =>
      (relocation.source, relocation.destination)
  | (.error _, _) => []

/-- What the walk that a bundle begins with fails with, if it fails. -/
def fault? (tree : FileTree) (path : List PathName) (session : Session) : Option AuditFault :=
  match runFrom (Session.document tree path) session with
  | (.ok root, read) =>
    match ((start tree read root).run (context tree root)).1 with
    | .error fault => some fault
    | .ok _ => none
  | (.error _, _) => none

/-- A walk that is seen to fail ends with that fault. -/
theorem run_of_fault? {tree : FileTree} {path : List PathName} {session read : Session}
    {root : Document} {fault : AuditFault}
    (opened : runFrom (Session.document tree path) session = (.ok root, read))
    (fails : fault? tree path session = some fault) :
    ∃ s, (start tree read root).run (context tree root) = (.error fault, s) := by
  unfold fault? at fails
  rw [opened] at fails
  dsimp only at fails
  rcases ran : (start tree read root).run (context tree root) with ⟨answer, s⟩
  rw [ran] at fails
  -- Only a walk that fails has a fault to show.
  cases answer with
  | error raised =>
    cases fails
    exact ⟨s, rfl⟩
  | ok copied => cases fails

/-- The sources that move are those of the relocations when the walk ends. -/
theorem moves_eq {tree : FileTree} {path : List PathName} {session read : Session}
    {root : Document} (opened : runFrom (Session.document tree path) session = (.ok root, read)) :
    moves tree path session =
      ((start tree read root).run (context tree root)).2.relocations.map fun relocation =>
        (relocation.source, relocation.destination) := by
  rw [moves, opened]

/-- A source that moves has a relocation when the walk ends. -/
theorem Made.relocation_of_moves {tree : FileTree} {path : List PathName}
    {session : Session} {bundle : Bundle} {root : Document} {read : Session} {copied : Json}
    {s : BundleState} {source : Source} {destination : Pointer}
    (made : Made tree path session bundle root read copied s)
    (member : (source, destination) ∈ moves tree path session) :
    ∃ content, ⟨source, destination, content⟩ ∈ s.relocations := by
  -- The moves of a bundle are the relocations of the state in which its walk ends.
  rw [moves_eq made.opened, made.ran] at member
  obtain ⟨relocation, inside, same⟩ := List.mem_map.mp member
  cases same
  exact ⟨relocation.content, inside⟩

/-- Two files, one of which refers to a schema of the other. -/
def twoFiles : FileTree :=
  .directory
    [("api.yaml", .file (some "openapi: 3.0.0\nx:\n  $ref: b.yaml#/components/schemas/X\n")),
      ("b.yaml", .file (some "components:\n  schemas:\n    X: [1]\n"))]

/-- The schema is found where its reference leads in the bundle. -/
example : ((runFrom (build twoFiles [.text "api.yaml"]) .empty).1.toOption.bind fun bundle =>
    bundle.document.find? ["components", "schemas", "b-yaml-X", "0"]).isSome = true := by
  decide +kernel

end Bundle

end SpecTrace
