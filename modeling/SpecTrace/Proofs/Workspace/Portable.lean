import SpecTrace.Proofs.Workspace.Moved
import SpecTrace.Proofs.Workspace.Sources

/-! Workspaces that can be carried around: no reference in their files leads out of them, so the
directory in which they lie decides about nothing. -/

namespace SpecTrace

namespace FileTree

/-- A file refers to another file, by the document part of one of its references. -/
def Refers (workspace : FileTree) (referrer : FilePath) (document : String) : Prop :=
  ∃ pointer node raw, (Session.empty.workspace workspace).node? ⟨referrer, pointer⟩ = some node ∧
    node.reference? = some raw ∧ (Reference.parse raw).kind = .relative ∧
    (Reference.parse raw).document = document

/-- Every reference to another file is a relative path that never climbs above the workspace. -/
structure Portable (workspace : FileTree) : Prop where
  isDirectory : workspace.isDirectory = true
  proper : workspace.Proper
  stays : ∀ referrer document, workspace.Refers referrer document →
    Reference.StaysBelow referrer document

/-- Neither a reference to another file nor the file that it stands in looks like a drive. -/
def Driveless (workspace : FileTree) : Prop :=
  ∀ referrer document, workspace.Refers referrer document → Reference.Driveless referrer document

/-- The references to other files, each with the file that it stands in. -/
def otherFiles (workspace : FileTree) : List (FilePath × String) :=
  (Session.empty.allDocuments workspace).flatMap fun file =>
    file.root.descendants.filterMap fun node => do
      let reference := Reference.parse (← node.2.reference?)
      if reference.kind = .relative then some (file.path, reference.document) else none

/-- A reference to another file is one of those that are listed. -/
theorem mem_otherFiles {workspace : FileTree} {referrer : FilePath} {document : String}
    (refers : workspace.Refers referrer document) : (referrer, document) ∈ workspace.otherFiles := by
  obtain ⟨pointer, node, raw, named, spelled, relative, rfl⟩ := refers
  obtain ⟨file, found, leads⟩ := Option.bind_eq_some_iff.mp named
  change Session.empty.documentAt? workspace referrer = some file at found
  -- The node is a descendant of the root of its file.
  refine List.mem_flatMap.mpr ⟨file, Session.mem_allDocuments found, List.mem_filterMap.mpr
    ⟨(pointer, node), Node.mem_descendants_of_find? leads, ?_⟩⟩
  have place : file.path = referrer := Session.documentAt?_path found
  simp [spelled, relative, place]

/-- What holds of each listed reference holds of every reference to another file. -/
theorem Refers.all {workspace : FileTree} {P : FilePath → String → Prop}
    (each : ∀ pair ∈ workspace.otherFiles, P pair.1 pair.2) (referrer : FilePath)
    (document : String) (refers : workspace.Refers referrer document) : P referrer document :=
  each _ (mem_otherFiles refers)

end FileTree

/-- A workspace at a directory where no reference of it is taken for a drive. Drives are looked for
at the root of the file system only. -/
structure Lies (workspace tree : FileTree) (directory : FilePath) : Prop
    extends Placed workspace tree directory where
  hostless : directory ≠ [] ∨ workspace.Driveless

/-- The names that a reference in a file leads through below the workspace. -/
def Reference.namesInside (referrer : FilePath) (document : String) : List PathName :=
  if document = "" then referrer.names else namesBelow referrer document

section

variable {workspace tree : FileTree} {directory referrer place : FilePath} {document : String}

/-- The nodes of a file that is read are named by their pointers. -/
theorem Session.node?_of_load {file : Document} (held : Session.load workspace file.path = .ok file)
    (pointer : Pointer) :
    (Session.empty.workspace workspace).node? ⟨file.path, pointer⟩ = file.root.find? pointer := by
  -- An empty session has opened no document, so the file is loaded.
  have known : (Session.empty.workspace workspace).document? file.path = some file := by
    show (Session.load workspace file.path).toOption = some file
    rw [held]
    rfl
  rw [Workspace.node?, known, Option.bind_some]

/-- A document of a workspace is a file with a plain name. -/
theorem FileTree.Portable.plain (portable : workspace.Portable) {file : Document}
    (held : Session.load workspace place = .ok file) : place.Plain ∧ place ≠ [] := by
  constructor
  · -- Something stands at the place, so the names that lead to it are those of entries.
    have there : (workspace.get? place).isSome = true := by
      cases found : workspace.get? place with
      | some inner => rfl
      | none =>
        rw [Session.load, FileTree.readText, found] at held
        cases held
    obtain ⟨inner, found⟩ := Option.isSome_iff_exists.mp there
    exact (portable.proper.get? found).2
  · rintro rfl
    exact Session.load_root portable.isDirectory file held

/-- The names of a plain place lead to it and never climb. -/
theorem FilePath.staysInside_names (plain : place.Plain) (depth : Nat) :
    staysInside depth place.names = true := by
  -- By induction on the place: a proper name leads one directory further down.
  induction place generalizing depth with
  | nil => rfl
  | cons name rest ih =>
    obtain ⟨here, later⟩ := List.forall_mem_cons.mp plain
    have stays := not_or.mpr ⟨here.1.filled, here.1.stays⟩
    rw [names, List.map_cons, staysInside, if_neg stays, if_neg here.1.below]
    exact ih later (depth + 1)

/-- Empty names at the beginning stay where they are. -/
theorem FilePath.staysInside_empty (n : Nat) (names : List PathName) (depth : Nat) :
    staysInside depth (List.replicate n (.text "") ++ names) = staysInside depth names := by
  -- By induction on their number.
  induction n with
  | zero => rfl
  | succ n ih =>
    rw [List.replicate_succ, List.cons_append, staysInside, if_pos (Or.inl rfl)]
    exact ih

/-- Wherever a workspace lies, its references lead to the same places of it. -/
theorem Lies.names? (lies : Lies workspace tree directory) (portable : workspace.Portable)
    (plain : referrer.Plain) (some_name : referrer ≠ [])
    (refers : document ≠ "" → workspace.Refers referrer document) :
    ∃ path, Workspace.names? (directory ++ referrer) document = some path ∧
      tree.resolve path = (workspace.resolve (Reference.namesInside referrer document)).map
        (directory ++ ·) := by
  by_cases here : document = ""
  · -- A reference without a document part stays in its file.
    subst here
    refine ⟨directory.names ++ referrer.names, ?_, ?_⟩
    · rw [Workspace.names?, if_pos rfl, FilePath.names, FilePath.names, FilePath.names, List.map_append]
    · rw [Reference.namesInside, if_pos rfl]
      exact FileTree.resolve_placed lies.toPlaced (FilePath.staysInside_names plain 0)
  · have stays := portable.stays referrer document (refers here)
    have hostless : directory ≠ [] ∨ Reference.Driveless referrer document :=
      lies.hostless.imp id fun driveless => driveless referrer document (refers here)
    -- The names are those of the directory, and those that the reference leads through below it.
    obtain ⟨n, names, same, resolved⟩ :=
      Reference.resolve?_below lies.plain plain some_name stays hostless
    -- The empty names in front do not help to stay inside, so the others stay there by themselves.
    have inside : FilePath.staysInside 0 names = true := by
      rw [← FilePath.staysInside_empty n, ← same]
      exact stays.names
    refine ⟨directory.names ++ names, ?_, ?_⟩
    · rw [Workspace.names?, if_neg here, resolved]
    · rw [Reference.namesInside, if_neg here, same,
        FileTree.resolve_empty workspace portable.isDirectory, FileTree.resolve_placed lies.toPlaced inside]

end

end SpecTrace
