import SpecTrace.Locate.Locator
import SpecTrace.Proofs.Bundle.TrueRecords
import SpecTrace.Proofs.Text.Lines
import SpecTrace.Proofs.Workspace.Places

/-! Locating pointers right after a bundle was built: the root file decides first, and then the
longest record that begins the pointer. -/

namespace SpecTrace

/-- The location of a pointer into a bundle. -/
def Bundle.locate (tree : FileTree) (bundle : Bundle) (p : Pointer) : Auditing Location := do
  (← Locator.ofBundle tree bundle).locate p

/-- The lines of a document are told by the line terminators of its text. -/
theorem Document.Faithful.lineFor {document : Document} (faithful : document.Faithful)
    (offset : Nat) :
    document.lineFor offset =
      1 + (terminatorEnds 0 document.text.toList).countP (· ≤ offset) := by
  -- The lines are numbered when the text is read.
  have lines : document.lines = LineIndex.ofText document.text.toList := by
    unfold Document.Faithful Document.ofText at faithful
    split at faithful
    · rw [← Except.ok.inj faithful]
    · cases faithful
  rw [Document.lineFor, lines, lineFor_ofText]

/-- A node that a source names stands in the document of its file. -/
theorem Workspace.document_of_node? {workspace : Workspace} {source : Source} {node : Node}
    (named : workspace.node? source = some node) :
    ∃ document, workspace.document? source.file = some document ∧
      document.root.find? source.pointer = some node :=
  Option.bind_eq_some_iff.mp named

/-- The file that content was entered from is found again under its place. -/
theorem Enters.resolved {context : BundleContext} {call next : Call}
    (enters : Enters context call next) :
    context.tree.resolve next.visit.origin.file.names = .ok next.visit.origin.file := by
  obtain ⟨calls, inside⟩ := enters
  -- The document was loaded from the place that the reference led to.
  have place : ∀ {raw version target node s s₁},
      Leaves context call.visit.origin.file raw s version target node s₁ →
        context.tree.resolve target.path.names = .ok target.path := by
    intro raw version target node s s₁ leaves
    obtain ⟨names, place, _, resolved, found⟩ := loadTarget_answer leaves.loaded
    rw [Session.documentAt?_path found]
    exact FileTree.resolve_names resolved
  -- Children and members beside a reference are not entered: they use up no depth.
  cases calls with
  | child _ _ _ => exact absurd inside (Nat.lt_irrefl _)
  | sibling _ _ _ _ _ => exact absurd inside (Nat.lt_irrefl _)
  | moved _ leaves _ _ _ => exact place leaves
  | replaced _ leaves _ _ _ => exact place leaves

namespace Bundle

variable {tree : FileTree} {path : List PathName} {session after : Session} {bundle : Bundle}
  {root : Document} {read : Session} {copied : Json} {s : BundleState} {p : Pointer}

/-- The place of a pointer into a bundle is seen by building the bundle and asking for it. -/
theorem exists_of_located (p : Pointer) (location : Location)
    (built : runFrom (build tree path) session = (.ok bundle, after))
    (asked : (runFrom (build tree path >>= fun bundle => bundle.locate tree p)
      session).1.toOption = some location) :
    ∃ later, runFrom (bundle.locate tree p) after = (.ok location, later) := by
  -- The bundle is built in the state in which it is asked, so only the second run is left.
  rw [runFrom_bind_ok built] at asked
  rcases located : runFrom (bundle.locate tree p) after with ⟨answer, later⟩
  rw [located] at asked
  cases answer with
  | ok place =>
    cases asked
    exact ⟨later, rfl⟩
  | error fault => cases asked

/-- No place has another document after a bundle was built. -/
theorem Made.documents_after (made : Made tree path session bundle root read copied s)
    (built : runFrom (build tree path) session = (.ok bundle, after)) :
    after.documentAt? tree = session.documentAt? tree := by
  have ran := made.ran
  rw [runFrom_build, made.opened] at built
  dsimp only at built
  rw [ran] at built
  dsimp only at built
  rw [made.placed] at built
  -- The session is the one in which the walk ended.
  rw [← (Prod.mk.inj built).2]
  exact made.documents

/-- A locator for a bundle is opened with the root file that was bundled. -/
theorem Made.locator (made : Made tree path session bundle root read copied s)
    (built : runFrom (build tree path) session = (.ok bundle, after)) :
    ∃ later, runFrom (Locator.ofBundle tree bundle) after =
        (.ok ⟨tree, root, bundle.provenance⟩, later) ∧
      later.documentAt? tree = session.documentAt? tree := by
  obtain ⟨place, resolved, found⟩ := Session.document_answer made.opened
  have same := Session.documentAt?_path found
  subst same
  have documents := made.documents_after built
  -- The root file is found again under its place.
  obtain ⟨later, asked, keeps⟩ := Session.document_of_place
    (FileTree.resolve_names resolved) ((congrFun documents root.path).trans found)
  refine ⟨later, ?_, keeps.trans documents⟩
  rw [Locator.ofBundle, made.rootFile, runFrom_bind_ok asked]
  rfl

/-- A pointer that leads to a node of the root file is located there. -/
theorem Made.locate_root (made : Made tree path session bundle root read copied s)
    (built : runFrom (build tree path) session = (.ok bundle, after)) {node : Node}
    (held : root.root.find? p = some node) :
    ∃ later, runFrom (bundle.locate tree p) after = (.ok (root.locationOf node), later) := by
  -- The root document is looked at first, before any record.
  obtain ⟨later, opened, _⟩ := made.locator built
  refine ⟨later, ?_⟩
  rw [locate, runFrom_bind_ok opened, Locator.locate]
  simp only [held]
  rfl

/-- Any other pointer is located by what is recorded for it, if that names a node. -/
theorem Made.locate_recorded (made : Made tree path session bundle root read copied s)
    (built : runFrom (build tree path) session = (.ok bundle, after)) {origin : Origin}
    {document : Document} {node : Node} (missing : root.root.find? p = none)
    (recorded : bundle.provenance.resolve? p = some origin)
    (resolved : tree.resolve origin.file.names = .ok origin.file)
    (found : (session.workspace tree).document? origin.file = some document)
    (held : document.root.find? origin.pointer = some node) :
    ∃ later, runFrom (bundle.locate tree p) after = (.ok (document.locationOf node), later) := by
  -- The root document has nothing there, so the record decides and its file is opened.
  obtain ⟨later, opened, documents⟩ := made.locator built
  obtain ⟨last, asked, _⟩ := Session.document_of_place resolved
    ((congrFun documents origin.file).trans found)
  refine ⟨last, ?_⟩
  rw [locate, runFrom_bind_ok opened, Locator.locate]
  simp only [missing, Provenance.resolve_eq_ok.mpr recorded]
  rw [runFrom_bind_ok asked]
  simp only [held]
  rfl

/-- Where the root file has no node, what is below the longest record is located in the content that
was entered there. -/
theorem Made.locate_entered (made : Made tree path session bundle root read copied s)
    (faithful : session.Faithful) (built : runFrom (build tree path) session = (.ok bundle, after))
    {entering next : Call} (reached : Reaches tree read root entering)
    (enters : Enters (context tree root) entering next) {rest : Pointer} {node : Node}
    (longest : s.provenance.Longest next.visit.site rest)
    (names : s.provenance.at? next.visit.site = some next.visit.origin)
    (missing : root.root.find? (next.visit.site ++ rest) = none)
    (written : next.visit.node.find? rest = some node) :
    ∃ document later,
      (session.workspace tree).document? document.path = some document ∧
      document.root.find? (next.visit.origin.pointer ++ rest) = some node ∧
      runFrom (bundle.locate tree (next.visit.site ++ rest)) after =
        (.ok (document.locationOf node), later) := by
  -- The record names the node that the content was walked from.
  have standing := made.standing faithful (reached.tail enters.1)
  obtain ⟨document, stands, inside⟩ := Workspace.document_of_node? standing.named
  have place : document.path = next.visit.origin.file := Session.documentAt?_path stands
  have leads : document.root.find? (next.visit.origin.pointer ++ rest) = some node := by
    rw [Node.find?_append, inside, Option.bind_some, written]
  have answer : bundle.provenance.resolve? (next.visit.site ++ rest) =
      some (next.visit.origin.below rest) := by
    rw [made.provenance]
    exact Provenance.resolve?_append names longest.deepest
  -- So the record leads to the node, and the place of the record is found again.
  obtain ⟨later, located⟩ := made.locate_recorded built missing answer enters.resolved stands leads
  exact ⟨document, later, place ▸ stands, leads, located⟩

end Bundle

end SpecTrace
