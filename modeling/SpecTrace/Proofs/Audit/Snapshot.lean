import SpecTrace.Proofs.Audit.Steps

/-! A session keeps what it first read, whatever happens to the files and wherever steps fail. -/

namespace SpecTrace

/-! ### What one request keeps -/

/-- What a document that was made of a text consists of. -/
theorem Document.ofText_parts {path : FilePath} {format : Format} {text : String}
    {document : Document} (made : ofText path format text = .ok document) :
    document.path = path ∧ document.format = format ∧ document.text = text ∧
      readDocument format text = .ok document.root ∧
      document.lines = LineIndex.ofText text.toList := by
  -- A text that the reader refuses makes no document, so only the first branch is left.
  unfold ofText at made
  split at made
  · rename_i root read
    cases made
    exact ⟨rfl, rfl, rfl, read, rfl⟩
  · cases made

namespace Session

/-- Every document was read from the file at its path, in the format that the path asks for, and
no path was read twice. -/
structure Sound (session : Session) : Prop where
  once : (session.documents.map Document.path).Nodup
  made : ∀ document ∈ session.documents,
    Document.ofText document.path (Format.ofPath document.path.text) document.text = .ok document

/-- Nothing was read twice before anything was read. -/
theorem sound_empty : empty.Sound :=
  ⟨List.nodup_nil, fun _ member => absurd member List.not_mem_nil⟩

/-- What a file holds is made of a text in the format of its path. -/
theorem load_made {tree : FileTree} {place : FilePath} {document : Document}
    (loaded : load tree place = .ok document) :
    document.path = place ∧
      Document.ofText place (Format.ofPath place.text) document.text = .ok document := by
  simp only [load, bind, Except.bind] at loaded
  cases held : (tree.readText place).mapError AuditFault.io with
  | error fault => simp [held] at loaded
  | ok text =>
    simp only [held] at loaded
    -- The document has the text that it was made of.
    obtain ⟨path, _, same, _⟩ := Document.ofText_parts loaded
    rw [same]
    exact ⟨path, loaded⟩

/-- A document of a place that has none joins a sound session. -/
theorem Sound.add {session : Session} (sound : session.Sound) {tree : FileTree} {place : FilePath}
    {document : Document} (unknown : session.find? place = none)
    (loaded : load tree place = .ok document) : (session.add document).Sound := by
  obtain ⟨rfl, made⟩ := load_made loaded
  refine ⟨?_, ?_⟩
  · -- No other document is at the place.
    have new : ∀ other ∈ session.documents, other.path ≠ document.path := by
      simpa [find?, List.find?_eq_none] using unknown
    simp only [Session.add, List.map_append, List.map_cons, List.map_nil]
    refine List.nodup_append.mpr ⟨sound.once, by simp, ?_⟩
    intro path member other last
    obtain ⟨earlier, held, rfl⟩ := List.mem_map.mp member
    rw [List.mem_singleton.mp last]
    exact new earlier held
  · intro other member
    simp only [Session.add, List.mem_append, List.mem_singleton] at member
    rcases member with member | rfl
    · exact sound.made other member
    · exact made

/-- In a sound session every document is found by its path. -/
theorem Sound.find? {session : Session} (sound : session.Sound) {document : Document}
    (member : document ∈ session.documents) : session.find? document.path = some document := by
  have once := sound.once
  unfold Session.find?
  -- The document is the first one with its path, since it is the only one.
  generalize session.documents = documents at member once
  induction documents with
  | nil => cases member
  | cons first rest ih =>
    obtain ⟨apart, once⟩ := List.nodup_cons.mp once
    rcases List.mem_cons.mp member with rfl | member
    · simp
    · have other : first.path ≠ document.path := by
        intro same
        exact apart (same ▸ List.mem_map_of_mem member)
      simp [other, ih member once]

/-- A document that is found is found as long as documents are only added. -/
theorem find?_of_prefix {earlier later : Session}
    (grown : earlier.documents <+: later.documents) {place : FilePath} {document : Document}
    (found : earlier.find? place = some document) : later.find? place = some document := by
  obtain ⟨added, same⟩ := grown
  unfold Session.find? at found ⊢
  rw [← same, List.find?_append, found]
  rfl

/-- A session in good order that has grown from an earlier one. -/
structure GrownFrom (earlier session : Session) : Prop where
  kept : earlier.documents <+: session.documents
  sound : session.Sound

/-- A request for a document lets a session grow and leaves it in good order. -/
theorem GrownFrom.document {earlier session : Session} (grown : GrownFrom earlier session)
    (tree : FileTree) (path : List PathName) :
    GrownFrom earlier (runFrom (Session.document tree path) session).2 := by
  -- The request adds a document of a place that has none, or nothing.
  rcases asked : runFrom (Session.document tree path) session with ⟨answer, after⟩
  rcases document_adds asked with rfl | ⟨place, read, unknown, loaded, _, rfl⟩
  · exact grown
  · exact ⟨grown.kept.trans (List.prefix_append _ _), grown.sound.add unknown loaded⟩

/-- A request for a document that fails leaves the session as it was. -/
theorem document_failed {tree : FileTree} {path : List PathName} {session after : Session}
    {fault : AuditFault}
    (asked : runFrom (Session.document tree path) session = (.error fault, after)) :
    after = session := by
  rcases document_adds asked with same | ⟨_, _, _, _, answered, _⟩
  · exact same
  · cases answered

/-- A request that answers a document leaves that document at the place of the path. -/
theorem document_found {tree : FileTree} {path : List PathName} {session after : Session}
    {document : Document}
    (asked : runFrom (Session.document tree path) session = (.ok document, after)) :
    ∃ place, tree.resolve path = .ok place ∧ after.find? place = some document := by
  rw [runFrom_document] at asked
  split at asked
  · cases asked
  · rename_i place resolved
    refine ⟨place, resolved, ?_⟩
    split at asked
    · -- The document was there before.
      rename_i known
      cases asked
      exact known
    · rename_i unknown
      split at asked
      · cases asked
      · -- It was read, and nothing before it has its path.
        rename_i loaded
        cases asked
        have path := (load_made loaded).1
        unfold find? at unknown ⊢
        simp [add, List.find?_append, unknown, path]

/-- A request for a document that was read answers that document and reads nothing. -/
theorem document_known {tree : FileTree} {path : List PathName} {session : Session}
    {place : FilePath} {document : Document} (resolved : tree.resolve path = .ok place)
    (known : session.find? place = some document) :
    runFrom (Session.document tree path) session = (.ok document, session) := by
  rw [runFrom_document, resolved]
  simp only [known]

end Session

/-! ### Whole audits -/

/-- Something that happens while a session is open. -/
inductive AuditEvent where
  | step (step : AuditStep)
  /-- Files are written, replaced or removed; afterwards they are those of the given tree. -/
  | change (tree : FileTree)

/-- The files and the session of an audit. -/
structure AuditWorld where
  tree : FileTree
  session : Session

namespace AuditWorld

/-- The beginning of an audit of the files of a tree. -/
def opened (tree : FileTree) : AuditWorld :=
  ⟨tree, .empty⟩

/-- The effect of an event. -/
def apply (world : AuditWorld) : AuditEvent → AuditWorld
  | .step step => { world with session := (runFrom (step.run world.tree) world.session).2 }
  | .change tree => { world with tree }

/-- The effect of events one after the other. -/
def after (world : AuditWorld) (events : List AuditEvent) : AuditWorld :=
  events.foldl apply world

/-- An event lets the session grow and leaves it in good order. -/
theorem apply_grown {earlier : Session} {world : AuditWorld}
    (grown : Session.GrownFrom earlier world.session) (event : AuditEvent) :
    Session.GrownFrom earlier (world.apply event).session := by
  -- A change of the files does not touch the session.
  cases event with
  | step step =>
    exact step.run_keeps (P := Session.GrownFrom earlier)
      (fun path _ grown => grown.document world.tree path) grown
  | change tree => exact grown

/-- Events let the session grow and leave it in good order. -/
theorem after_grown {earlier : Session} {world : AuditWorld}
    (grown : Session.GrownFrom earlier world.session) (events : List AuditEvent) :
    Session.GrownFrom earlier (world.after events).session := by
  unfold after
  -- The session that it grew from stays the same, while the world goes on.
  induction events generalizing world with
  | nil => exact grown
  | cons event rest ih => exact ih (apply_grown grown event)

end AuditWorld

/-- What the session of an audit now has to do with what it was before. -/
structure Snapshot (before now : AuditWorld) : Prop where
  /-- No document was dropped or replaced, and all others were added behind those before. -/
  kept : before.session.documents <+: now.session.documents
  /-- No two documents have the same path. -/
  once : (now.session.documents.map Document.path).Nodup
  /-- A document is found by its path and by no other. -/
  keyed : ∀ place document, now.session.find? place = some document ↔
    document ∈ now.session.documents ∧ document.path = place
  /-- The tree of a document is its text, read in the format of its path. -/
  parsed : ∀ document ∈ now.session.documents,
    document.format = Format.ofPath document.path.text ∧
      readDocument document.format document.text = .ok document.root
  /-- The value of a document is its tree without positions. -/
  valued : ∀ document ∈ now.session.documents, document.value = document.root.toJson
  /-- The lines of a document are those of its text. -/
  lined : ∀ document ∈ now.session.documents,
    document.lines = LineIndex.ofText document.text.toList
  /-- A request that fails leaves the session as it is. -/
  unharmed : ∀ path fault after,
    runFrom (Session.document now.tree path) now.session = (.error fault, after) →
      after = now.session
  /-- A document that is answered is found from then on at the place that the path leads to. -/
  answered : ∀ path document after,
    runFrom (Session.document now.tree path) now.session = (.ok document, after) →
      ∃ place, now.tree.resolve path = .ok place ∧ after.find? place = some document
  /-- A path to a place that was read is answered with the document that was read first. -/
  served : ∀ path place document, now.tree.resolve path = .ok place →
    before.session.find? place = some document →
      runFrom (Session.document now.tree path) now.session = (.ok document, now.session)

/-- Between any two moments of an audit, in which steps of all kinds and changes of the files come
in any order, the session keeps what it has and stays in good order. -/
theorem session_is_a_snapshot (tree : FileTree) (earlier later : List AuditEvent) :
    Snapshot ((AuditWorld.opened tree).after earlier)
      (((AuditWorld.opened tree).after earlier).after later) := by
  -- The session was in good order before, so it grew from itself.
  have start : Session.GrownFrom .empty (AuditWorld.opened tree).session :=
    ⟨List.prefix_rfl, Session.sound_empty⟩
  have first := AuditWorld.after_grown start earlier
  generalize (AuditWorld.opened tree).after earlier = before at first
  -- What happens later only lets the session grow further.
  have grown : Session.GrownFrom before.session (before.after later).session :=
    AuditWorld.after_grown ⟨List.prefix_rfl, first.sound⟩ later
  generalize before.after later = now at grown
  -- What every document is made of follows from how it was read.
  have parts : ∀ document ∈ now.session.documents, _ := fun document member =>
    Document.ofText_parts (grown.sound.made document member)
  refine ⟨grown.kept, grown.sound.once, ?_, ?_, fun document _ => document.valued, ?_, ?_, ?_, ?_⟩
  · intro place document
    constructor
    · intro found
      exact ⟨Session.find?_mem found, Session.find?_path found⟩
    · rintro ⟨member, rfl⟩
      exact grown.sound.find? member
  · intro document member
    obtain ⟨_, format, _, read, _⟩ := parts document member
    rw [← format] at read
    exact ⟨format, read⟩
  · intro document member
    exact (parts document member).2.2.2.2
  · intro path fault after asked
    exact Session.document_failed asked
  · intro path document after asked
    exact Session.document_found asked
  · intro path place document resolved known
    exact Session.document_known resolved (Session.find?_of_prefix grown.kept known)

end SpecTrace
