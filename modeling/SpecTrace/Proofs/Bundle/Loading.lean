import SpecTrace.Proofs.Workspace

/-! Loading the document that a reference points into: what it answers, and what it leaves. -/

namespace SpecTrace

/-- A fault of reading a file or of finding what a reference names. -/
def AuditFault.IsReading : AuditFault → Prop
  | .io _ => True
  | .syntaxFault _ _ _ => True
  | .unresolved _ _ _ => True
  | _ => False

/-- A request for a document fails by a fault of reading. -/
theorem Session.document_fault {tree : FileTree} {path : List PathName} {session after : Session}
    {fault : AuditFault}
    (asked : runFrom (Session.document tree path) session = (.error fault, after)) :
    fault.IsReading := by
  -- The path leads nowhere, or the file at its place cannot be read.
  rw [Session.runFrom_document] at asked
  split at asked
  · cases asked
    trivial
  · split at asked
    · cases asked
    · split at asked
      · rename_i loaded
        cases asked
        -- Reading a file fails by its bytes or by its syntax.
        simp only [Session.load, bind, Except.bind] at loaded
        split at loaded
        · rename_i refused
          cases loaded
          cases held : tree.readText _ with
          | error cause =>
            rw [held] at refused
            cases refused
            trivial
          | ok text => simp [held] at refused
        · unfold Document.ofText at loaded
          split at loaded
          · cases loaded
          · cases loaded
            trivial
      · cases asked

/-- A step of an audit works on the session and leaves the rest of the state. -/
theorem runFrom_audit {α : Type} (step : Auditing α) (s : BundleState) :
    runFrom (Bundling.audit step) s =
      ((runFrom step s.session).1, { s with session := (runFrom step s.session).2 }) := by
  rcases ran : runFrom step s.session with ⟨answer, session⟩
  have run : step.run s.session = (answer, session) := ran
  unfold Bundling.audit
  simp only [runFrom_bind, runFrom_get, run, runFrom_set]
  -- The answer of the step is passed on.
  cases answer <;> rfl

/-- Loading asks for at most one document; its answer is the one of that request, and its fault
is one of reading. -/
theorem loadTarget_cases {context : BundleContext} {reference : Reference} {file : FilePath}
    {s s' : BundleState} {answer : Except AuditFault Document}
    (ran : runFrom (loadTarget context reference file) s = (answer, s')) :
    (s' = s ∧ ∃ fault, answer = .error fault ∧ fault.IsReading) ∨
      ∃ names asked session, Workspace.names? file reference.document = some names ∧
        runFrom (Session.document context.tree names) s.session = (asked, session) ∧
        s' = { s with session } ∧
        (answer = asked ∨ ∃ fault, answer = .error fault ∧ fault.IsReading) := by
  unfold loadTarget at ran
  split at ran
  · -- Without a document part the file itself is asked for.
    rename_i here
    rw [runFrom_audit] at ran
    cases ran
    exact Or.inr ⟨file.names, _, _, by simp [Workspace.names?, here], rfl, rfl, Or.inl rfl⟩
  · rename_i elsewhere
    split at ran
    · cases ran
      -- A document part that spells no path is refused before anything is asked for.
      exact Or.inl ⟨rfl, _, rfl, trivial⟩
    · rename_i path resolved
      have named : Workspace.names? file reference.document = some path := by
        simp [Workspace.names?, elsewhere, resolved]
      rw [runFrom_tryCatch, runFrom_audit] at ran
      cases asked : runFrom (Session.document context.tree path) s.session with
      | mk answered session =>
        rw [asked] at ran
        cases answered with
        | ok target =>
          cases ran
          exact Or.inr ⟨path, _, session, named, asked, rfl, Or.inl rfl⟩
        | error fault =>
          have reading := Session.document_fault asked
          -- A file that cannot be used is told as a reference that leads nowhere.
          dsimp only at ran
          split at ran
          · cases ran
            exact Or.inr ⟨path, _, session, named, asked, rfl, Or.inr ⟨_, rfl, trivial⟩⟩
          · cases ran
            exact Or.inr ⟨path, _, session, named, asked, rfl, Or.inr ⟨_, rfl, reading⟩⟩

/-- Loading answers with a document exactly if the request for the file that the reference names
does. -/
theorem loadTarget_ok_iff {context : BundleContext} {reference : Reference} {file : FilePath}
    {s s' : BundleState} {target : Document} :
    runFrom (loadTarget context reference file) s = (.ok target, s') ↔
      ∃ names session, Workspace.names? file reference.document = some names ∧
        runFrom (Session.document context.tree names) s.session = (.ok target, session) ∧
        s' = { s with session } := by
  -- Of the ways that loading can end, two are faults, so the one that is left is the request.
  constructor
  · intro ran
    rcases loadTarget_cases ran with ⟨_, fault, failed, _⟩ |
      ⟨names, asked, session, named, request, changed, rfl | ⟨fault, failed, _⟩⟩
    · cases failed
    · exact ⟨names, session, named, request, changed⟩
    · cases failed
  · rintro ⟨names, session, named, request, rfl⟩
    unfold Workspace.names? at named
    unfold loadTarget
    split at named
    · rename_i here
      cases named
      rw [if_pos here, runFrom_audit, request]
    · rename_i elsewhere
      -- The path that the document part spells is asked for, and no fault is told.
      rw [if_neg elsewhere, named]
      dsimp only
      rw [runFrom_tryCatch, runFrom_audit, request]

/-- Loading reads at most one file and changes nothing else. -/
theorem loadTarget_state {context : BundleContext} {reference : Reference} {file : FilePath}
    {s s' : BundleState} {answer : Except AuditFault Document}
    (ran : runFrom (loadTarget context reference file) s = (answer, s')) :
    s' = s ∨ ∃ place read, Session.load context.tree place = .ok read ∧
      s' = { s with session := s.session.add read } := by
  -- Either nothing was asked for, or one request was made.
  rcases loadTarget_cases ran with ⟨same, _⟩ | ⟨names, asked, session, _, request, changed, _⟩
  · exact Or.inl same
  · rcases Session.document_session request with same | ⟨place, read, loaded, grown⟩
    · -- The request read nothing, or it added what a file holds.
      subst same
      exact Or.inl changed
    · subst grown
      exact Or.inr ⟨place, read, loaded, changed⟩

/-- The document that is loaded is the one at the place that the reference names. -/
theorem loadTarget_answer {context : BundleContext} {reference : Reference} {file : FilePath}
    {s s' : BundleState} {target : Document}
    (ran : runFrom (loadTarget context reference file) s = (.ok target, s')) :
    ∃ names place, Workspace.names? file reference.document = some names ∧
      context.tree.resolve names = .ok place ∧
      s.session.documentAt? context.tree place = some target := by
  rcases loadTarget_cases ran with ⟨_, fault, failed, _⟩ | ⟨names, asked, session, named, request, _, same⟩
  · cases failed
  · -- The answer is that of the request, since it is no fault.
    rcases same with rfl | ⟨fault, failed, _⟩
    · obtain ⟨place, resolved, found⟩ := Session.document_answer request
      exact ⟨names, place, named, resolved, found⟩
    · cases failed

/-- Loading fails by a fault of reading. -/
theorem loadTarget_fault {context : BundleContext} {reference : Reference} {file : FilePath}
    {s s' : BundleState} {fault : AuditFault}
    (ran : runFrom (loadTarget context reference file) s = (.error fault, s')) :
    fault.IsReading := by
  -- The fault is that of the request, or one that loading tells in its place.
  rcases loadTarget_cases ran with ⟨_, other, same, reading⟩ | ⟨names, asked, session, _, request, _, same⟩
  · cases same
    exact reading
  · rcases same with rfl | ⟨other, same, reading⟩
    · exact Session.document_fault request
    · cases same
      exact reading

end SpecTrace
