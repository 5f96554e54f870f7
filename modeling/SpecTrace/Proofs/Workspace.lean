import SpecTrace.Bundle.Walk
import SpecTrace.Proofs.Document.Children
import SpecTrace.Proofs.Outcome

/-! Which document each place has, and that reading documents never changes the answer. -/

namespace SpecTrace

/-- A document as its own text gives it. -/
def Document.Faithful (document : Document) : Prop :=
  Document.ofText document.path document.format document.text = .ok document

/-- The document that a place has: the one that was read already, otherwise the one the file
holds. -/
def Session.documentAt? (session : Session) (tree : FileTree) (place : FilePath) : Option Document :=
  match session.find? place with
  | some document => some document
  | none => (Session.load tree place).toOption

/-- Files together with the documents at their places. -/
structure Workspace where
  tree : FileTree
  document? : FilePath → Option Document

/-- The files as a session sees them. -/
def Session.workspace (session : Session) (tree : FileTree) : Workspace :=
  ⟨tree, session.documentAt? tree⟩

namespace Workspace

/-- The names that the document part of a reference spells; none stands for the file itself. -/
def names? (file : FilePath) (document : String) : Option (List PathName) :=
  if document = "" then some file.names else Reference.resolve? file.text document

/-- The node that a source names. -/
def node? (workspace : Workspace) (source : Source) : Option Node :=
  (workspace.document? source.file).bind fun document => document.root.find? source.pointer

/-- The source that a reference in a file targets, and the node there. -/
def target? (workspace : Workspace) (file : FilePath) (raw : String) : Option (Source × Node) := do
  let reference := Reference.parse raw
  let place ← (workspace.tree.resolve (← names? file reference.document)).toOption
  let node ← workspace.node? ⟨place, reference.pointer⟩
  if reference.kind = .remote then none else some (⟨place, reference.pointer⟩, node)

/-- What a reference targets is a node of the files. -/
theorem node?_of_target? {workspace : Workspace} {file : FilePath} {raw : String}
    {source : Source} {node : Node} (leads : workspace.target? file raw = some (source, node)) :
    workspace.node? source = some node := by
  simp only [target?, Option.bind_eq_bind, Option.bind_eq_some_iff] at leads
  obtain ⟨names, _, place, _, found, known, last⟩ := leads
  -- A remote reference has no target.
  split at last
  · cases last
  · cases last
    exact known

/-- The nodes below a node are found below it. -/
theorem node?_below (workspace : Workspace) (source : Source) (suffix : Pointer) :
    workspace.node? (source.below suffix) =
      (workspace.node? source).bind fun node => node.find? suffix := by
  simp only [node?, Origin.below]
  cases workspace.document? source.file with
  | none => rfl
  | some document => exact Node.find?_append document.root source.pointer suffix

end Workspace

namespace Session

/-- A document that is found stands at the place it is found by. -/
theorem find?_path {session : Session} {place : FilePath} {document : Document}
    (found : session.find? place = some document) : document.path = place := by
  simpa using List.find?_some found

/-- A document that is found is one of those read. -/
theorem find?_mem {session : Session} {place : FilePath} {document : Document}
    (found : session.find? place = some document) : document ∈ session.documents :=
  List.mem_of_find?_eq_some found

/-- A document that was read first stays the one that is found. -/
theorem find?_add {session : Session} (document : Document) (place : FilePath) :
    (session.add document).find? place =
      (session.find? place).or (if document.path = place then some document else none) := by
  simp only [find?, add, List.find?_append]
  by_cases same : document.path = place <;> simp [same]

/-- What a file holds is a document at its place, and its text makes it. -/
theorem load_faithful {tree : FileTree} {place : FilePath} {document : Document}
    (loaded : load tree place = .ok document) :
    document.path = place ∧ document.Faithful := by
  -- Reading a text stores the path, the format and the text it was called with.
  simp only [load, bind, Except.bind] at loaded
  cases text : (tree.readText place).mapError AuditFault.io with
  | error fault => simp [text] at loaded
  | ok content =>
    simp only [text] at loaded
    have made := loaded
    unfold Document.ofText at loaded
    split at loaded
    · cases loaded
      exact ⟨rfl, made⟩
    · cases loaded

/-- A document stands at the place that has it. -/
theorem documentAt?_path {session : Session} {tree : FileTree} {place : FilePath}
    {document : Document} (found : session.documentAt? tree place = some document) :
    document.path = place := by
  -- It was opened before or is loaded now, and either way its place is the one that was asked for.
  unfold documentAt? at found
  split at found
  · rename_i known
    cases found
    exact find?_path known
  · exact (load_faithful (toOption_eq_some.mp found)).1

/-- Keeping what a file holds changes the document of no place. -/
theorem documentAt?_add {session : Session} {tree : FileTree} {place : FilePath}
    {document : Document} (loaded : load tree place = .ok document) :
    (session.add document).documentAt? tree = session.documentAt? tree := by
  -- Only the place that was read is found anew, with the document that its file holds.
  funext other
  have path := (load_faithful loaded).1
  unfold documentAt?
  rw [find?_add]
  cases known : session.find? other with
  | some held => simp
  | none =>
    -- A document that was read before keeps its place; otherwise it matters which place was read.
    by_cases same : place = other
    · subst same
      simp [path, loaded, Except.toOption]
    · simp [path, same]

/-- Every document that was read is the one its text makes. -/
def Faithful (session : Session) : Prop :=
  ∀ document ∈ session.documents, document.Faithful

/-- Nothing was read yet, so nothing was misread. -/
theorem faithful_empty : empty.Faithful := by
  intro document member
  simp [empty] at member

/-- Asking for a document follows the path, looks among the documents read and reads the file
last. -/
theorem runFrom_document (tree : FileTree) (path : List PathName) (session : Session) :
    runFrom (document tree path) session =
      match tree.resolve path with
      | .error fault => (.error (.io fault), session)
      | .ok place =>
        match session.find? place with
        | some known => (.ok known, session)
        | none =>
          match load tree place with
          | .error fault => (.error fault, session)
          | .ok read => (.ok read, session.add read) := by
  -- One case for each way in which the request ends.
  unfold document
  cases resolved : tree.resolve path with
  | error fault => simp [runFrom_bind]
  | ok place =>
    cases known : session.find? place with
    | some document => simp [runFrom_bind, known]
    | none =>
      cases loaded : load tree place <;>
        simp [runFrom_bind, runFrom_map, known, loaded]

/-- A request for a document leaves the session as it was, or it answers what the file at a place
holds that has no document yet, and adds it. -/
theorem document_adds {tree : FileTree} {path : List PathName} {session after : Session}
    {answer : Except AuditFault Document}
    (asked : runFrom (document tree path) session = (answer, after)) :
    after = session ∨ ∃ place read, session.find? place = none ∧ load tree place = .ok read ∧
      answer = .ok read ∧ after = session.add read := by
  -- Only reading a file changes the session.
  rw [runFrom_document] at asked
  split at asked
  · cases asked; exact Or.inl rfl
  · split at asked
    · cases asked; exact Or.inl rfl
    · rename_i unknown
      split at asked
      · cases asked; exact Or.inl rfl
      · rename_i loaded
        cases asked
        exact Or.inr ⟨_, _, unknown, loaded, rfl, rfl⟩

/-- A request for a document leaves the session as it was, or adds what a file holds. -/
theorem document_session {tree : FileTree} {path : List PathName} {session after : Session}
    {answer : Except AuditFault Document}
    (asked : runFrom (document tree path) session = (answer, after)) :
    after = session ∨ ∃ place read, load tree place = .ok read ∧ after = session.add read := by
  rcases document_adds asked with same | ⟨place, read, _, loaded, _, added⟩
  · exact Or.inl same
  · exact Or.inr ⟨place, read, loaded, added⟩

/-- Whatever a request for a document answers, no place has another document afterwards. -/
theorem document_keeps {tree : FileTree} {path : List PathName} {session after : Session}
    {answer : Except AuditFault Document}
    (asked : runFrom (document tree path) session = (answer, after)) :
    after.documentAt? tree = session.documentAt? tree := by
  rcases document_session asked with rfl | ⟨place, read, loaded, rfl⟩
  · rfl
  · exact documentAt?_add loaded

/-- The files look the same after a document was asked for. -/
theorem document_workspace {tree : FileTree} {path : List PathName} {session after : Session}
    {answer : Except AuditFault Document}
    (asked : runFrom (document tree path) session = (answer, after)) :
    after.workspace tree = session.workspace tree := by
  rw [workspace, workspace, document_keeps asked]

/-- Faithful documents stay faithful, and a document that is read joins them as one. -/
theorem document_faithful {tree : FileTree} {path : List PathName} {session after : Session}
    {answer : Except AuditFault Document} (faithful : session.Faithful)
    (asked : runFrom (document tree path) session = (answer, after)) : after.Faithful := by
  -- The session is as before, or has one more document that was read.
  rcases document_session asked with rfl | ⟨place, read, loaded, rfl⟩
  · exact faithful
  · intro document member
    simp only [add, List.mem_append, List.mem_singleton] at member
    rcases member with member | rfl
    · exact faithful document member
    · exact (load_faithful loaded).2

/-- A document that is answered is the one of the place to which the path leads. -/
theorem document_answer {tree : FileTree} {path : List PathName} {session after : Session}
    {document : Document}
    (asked : runFrom (Session.document tree path) session = (.ok document, after)) :
    ∃ place, tree.resolve path = .ok place ∧ session.documentAt? tree place = some document := by
  -- Of the four ways in which a request ends, two answer a document.
  rw [runFrom_document] at asked
  split at asked
  · cases asked
  · rename_i place resolved
    refine ⟨place, resolved, ?_⟩
    -- The place has the document read before, or the one that its file holds.
    unfold documentAt?
    split at asked
    · cases asked
      rfl
    · split at asked
      · cases asked
      · rename_i loaded
        cases asked
        simp [loaded, Except.toOption]

/-- In a faithful session, the document of every place is the one its text makes. -/
theorem documentAt?_faithful {session : Session} {tree : FileTree} {place : FilePath}
    {document : Document} (faithful : session.Faithful)
    (found : session.documentAt? tree place = some document) : document.Faithful := by
  -- It was opened before or is loaded now, and either way its text was read there.
  unfold documentAt? at found
  split at found
  · rename_i known
    cases found
    exact faithful _ (find?_mem known)
  · exact (load_faithful (toOption_eq_some.mp found)).2

end Session

end SpecTrace
