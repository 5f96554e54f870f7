import SpecTrace.Document.Address
import SpecTrace.Document.Format
import SpecTrace.OpenApi.Version
import SpecTrace.Text.LineIndex
import SpecTrace.Workspace.FileTree

/-! Documents that are read at most once, and the sessions that keep them. -/

namespace SpecTrace

/-- A file as it was when it was first read. -/
structure Document where
  path : FilePath
  format : Format
  text : String
  root : Node
  /-- The tree without positions. -/
  value : Json
  valued : value = root.toJson
  lines : LineIndex

namespace Document

/-- Reads a text; the path names it in errors. -/
def ofText (path : FilePath) (format : Format) (text : String) : Except AuditFault Document :=
  match readDocument format text with
  | .ok root => .ok ⟨path, format, text, root, root.toJson, rfl, LineIndex.ofText text.toList⟩
  | .error e => .error (.syntaxFault path.text e.offset e.fault.message)

/-- The line of a byte offset. -/
def lineFor (document : Document) (offset : Nat) : Nat :=
  document.lines.lineFor offset

end Document

/-- The documents read so far, in the order of reading. -/
structure Session where
  documents : List Document

/-- A step of an audit; the documents it read are kept even if it fails. -/
abbrev Auditing := ExceptT AuditFault (StateM Session)

namespace Session

/-- No document was read. -/
def empty : Session := ⟨[]⟩

/-- The number of documents read. -/
def size (session : Session) : Nat :=
  session.documents.length

/-- The document that was read from a place. -/
def find? (session : Session) (place : FilePath) : Option Document :=
  session.documents.find? fun document => document.path = place

/-- The session with one more document. -/
def add (session : Session) (document : Document) : Session :=
  ⟨session.documents ++ [document]⟩

/-- Reads the document at a place. -/
def load (tree : FileTree) (place : FilePath) : Except AuditFault Document := do
  let text ← (tree.readText place).mapError AuditFault.io
  Document.ofText place (Format.ofPath place.text) text

/-- The document that a path leads to, read on first use. -/
def document (tree : FileTree) (path : List PathName) : Auditing Document := do
  let place ← (tree.resolve path).mapError AuditFault.io
  match (← get).find? place with
  | some document => pure document
  | none =>
    let document ← load tree place
    modify (·.add document)
    pure document

end Session

/-- A path leads to a document that declares a version which can be bundled. -/
def isOpenApi (tree : FileTree) (path : List PathName) : Bool :=
  let root : Option Node := do
    let place ← (tree.resolve path).toOption
    let text ← (tree.readText place).toOption
    (readDocument (Format.ofPath place.text) text).toOption
  root.any fun node => (ApiVersion.detect? node.toJson).isSome

end SpecTrace
