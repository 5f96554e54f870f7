import SpecTrace.Bundle.Walk

/-! Bundles: one document that holds all that a root file refers to in other files. -/

namespace SpecTrace

/-- A root file with all that it refers to. -/
structure Bundle where
  rootFile : FilePath
  version : Option ApiVersion
  document : Json
  /-- Where moved and inlined content came from. -/
  provenance : Provenance

namespace FileTree

mutual

/-- No more nodes than this are in the documents of a tree. -/
def nodeBound : FileTree → Nat
  | .file content => (content.getD "").utf8ByteSize + 1 + Yaml.maxAliasNodes
  | .directory entries => entriesNodeBound entries

/-- No more nodes than this are in the documents of the entries of a directory. -/
def entriesNodeBound : List (String × FileTree) → Nat
  | [] => 0
  | (_, tree) :: rest => tree.nodeBound + entriesNodeBound rest

end

end FileTree

/-- No more nodes than this are in the documents that were read. -/
def Session.nodeBound (session : Session) : Nat :=
  session.documents.foldl
    (fun bound document => bound + document.text.utf8ByteSize + 1 + Yaml.maxAliasNodes) 0

/-- References lead no deeper into one another than this: each node is moved at most once, and
within moved content each node is inlined into itself never. -/
def walkDepth (tree : FileTree) (session : Session) : Nat :=
  let nodes := tree.nodeBound + session.nodeBound + 1
  nodes * nodes

namespace Bundle

/-- The document with all moved content at its destination. -/
def place : Json → List Relocation → Except AuditFault Json
  | document, [] => .ok document
  | document, relocation :: rest =>
    match document.insertAt? relocation.destination (relocation.content.getD .null) with
    | some filled => place filled rest
    | none => .error (.collision relocation.destination.fragment)

/-- Bundles a document that was read. -/
def ofDocument (tree : FileTree) (root : Document) : Auditing Bundle := do
  let session ← get
  let version := ApiVersion.detect? root.value
  let context : BundleContext := ⟨tree, root, version⟩
  let start : Site := ⟨root.path, [], []⟩
  let walked := walkWithin context (walkDepth tree session) root.value start
  let (result, state) := walked.run ⟨session, [], .empty⟩
  set state.session
  match result with
  | .error fault => throw fault
  | .ok document =>
    let placed ← place document state.relocations
    pure ⟨root.path, version, placed, state.provenance⟩

/-- Bundles the file that a path leads to. -/
def build (tree : FileTree) (path : List PathName) : Auditing Bundle := do
  ofDocument tree (← Session.document tree path)

end Bundle

end SpecTrace
