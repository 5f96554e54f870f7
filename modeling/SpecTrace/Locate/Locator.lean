import SpecTrace.Bundle.Bundle

/-! Places in source files for pointers into a bundle. -/

namespace SpecTrace

/-- A node in a source file. -/
structure Location where
  file : FilePath
  /-- The line of the first byte. -/
  line : Nat
  span : Span
deriving DecidableEq, Repr

/-- The location of a node of a document. -/
def Document.locationOf (document : Document) (node : Node) : Location :=
  ⟨document.path, document.lineFor node.span.start, node.span⟩

/-- What pointers into a bundle are located with. -/
structure Locator where
  tree : FileTree
  /-- The root file of the bundle. -/
  root : Document
  provenance : Provenance

namespace Locator

/-- Opens a locator for a bundle. -/
def ofBundle (tree : FileTree) (bundle : Bundle) : Auditing Locator := do
  let root ← Session.document tree (FilePath.names bundle.rootFile)
  pure ⟨tree, root, bundle.provenance⟩

/-- The location of a pointer: in the root file if the pointer leads to a node there, otherwise
where the content came from. -/
def locate (locator : Locator) (pointer : Pointer) : Auditing Location := do
  match locator.root.root.find? pointer with
  | some node => pure (locator.root.locationOf node)
  | none =>
    match locator.provenance.resolve pointer with
    | .error _ => throw (.notLocated pointer.fragment)
    | .ok origin =>
      let document ← Session.document locator.tree (FilePath.names origin.file)
      match document.root.find? origin.pointer with
      | some node => pure (document.locationOf node)
      | none => throw (.notLocated pointer.fragment)

end Locator

end SpecTrace
