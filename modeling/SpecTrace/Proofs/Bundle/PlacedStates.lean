import SpecTrace.Proofs.Bundle.Built
import SpecTrace.Proofs.Workspace.Portable

/-! States and bundles of a workspace at a directory: every file in them is named with the directory
in front, and what a walk does to a state does not depend on it. -/

namespace SpecTrace

/-- An origin in a workspace at a directory. -/
def Origin.placed (directory : FilePath) (origin : Origin) : Origin :=
  { origin with file := directory ++ origin.file }

/-- A relocation out of a workspace at a directory. -/
def Relocation.placed (directory : FilePath) (relocation : Relocation) : Relocation :=
  { relocation with source := relocation.source.placed directory }

namespace Provenance

mutual

/-- Records of a workspace at a directory. -/
def placed (directory : FilePath) : Provenance → Provenance
  | .node here children =>
    .node (here.map (·.placed directory)) (placedChildren directory children)

/-- The trees below segments, for a workspace at a directory. -/
def placedChildren (directory : FilePath) : List (String × Provenance) → List (String × Provenance)
  | [] => []
  | (segment, child) :: rest => (segment, child.placed directory) :: placedChildren directory rest

end

end Provenance

/-- A state of building a bundle, for a workspace at a directory. -/
def BundleState.placed (directory : FilePath) (s : BundleState) : BundleState :=
  ⟨s.session.placed directory, s.relocations.map (·.placed directory),
    s.provenance.placed directory⟩

/-- A visit of a node of a workspace at a directory. -/
def Visit.placed (directory : FilePath) (visit : Visit) : Visit :=
  { visit with
    origin := visit.origin.placed directory
    inlining := visit.inlining.map (·.placed directory) }

/-- A bundle of a workspace at a directory: it names the root file, and the file of every record,
with the directory in front. -/
def Bundle.placed (directory : FilePath) (bundle : Bundle) : Bundle :=
  { bundle with
    rootFile := directory ++ bundle.rootFile
    provenance := bundle.provenance.placed directory }

variable {directory : FilePath}

/-- At the same directory, different origins stay different. -/
theorem Origin.placed_inj {origin other : Origin} :
    origin.placed directory = other.placed directory ↔ origin = other := by
  rcases origin with ⟨file, pointer⟩
  rcases other with ⟨file', pointer'⟩
  simp [Origin.placed]

/-- Among placed origins, an origin is found as it is among the others. -/
theorem Origin.mem_placed {origin : Origin} {origins : List Origin} :
    origin.placed directory ∈ origins.map (·.placed directory) ↔ origin ∈ origins := by
  simp only [List.mem_map, Origin.placed_inj, exists_eq_right]

namespace Provenance

/-- The trees below segments are placed one by one. -/
theorem placedChildren_eq (directory : FilePath) (children : List (String × Provenance)) :
    placedChildren directory children =
      children.map fun child => (child.1, child.2.placed directory) := by
  -- By induction on the trees.
  induction children with
  | nil => rfl
  | cons child rest ih => rw [placedChildren, ih, List.map_cons]

/-- Recording an origin does not depend on the directory. -/
theorem insert_placed (tree : Provenance) (pointer : Pointer) (origin : Origin) :
    (tree.insert pointer origin).placed directory =
      (tree.placed directory).insert pointer (origin.placed directory) := by
  -- By induction on the pointer at which the origin is recorded.
  induction pointer generalizing tree with
  | nil =>
    cases tree
    rfl
  | cons segment rest ih =>
    cases tree with
    | node here children =>
      -- The tree below the segment is placed with all of them, or it is empty in both ways.
      have below : (lookupMember? (placedChildren directory children) segment).getD empty =
          ((lookupMember? children segment).getD empty).placed directory := by
        rw [placedChildren_eq, lookupMember?_map]
        cases lookupMember? children segment <;> rfl
      rw [insert, placed, placed, insert, below, ← ih, placedChildren_eq, placedChildren_eq,
        insertMember_map]

end Provenance

namespace BundleState

/-- Recording an origin changes the state in the same way at every directory. -/
theorem record_placed (s : BundleState) (pointer : Pointer) (source : Source) :
    (s.record pointer source).placed directory =
      (s.placed directory).record pointer (source.placed directory) := by
  simp only [placed, record, Provenance.insert_placed]

/-- So does reserving a destination. -/
theorem reserve_placed (s : BundleState) (source : Source) (destination : Pointer) :
    (s.reserve source destination).placed directory =
      (s.placed directory).reserve (source.placed directory) destination := by
  -- The new relocation comes last in both lists.
  simp only [placed, reserve, Provenance.insert_placed, List.map_append]
  rfl

/-- So does filling in content. -/
theorem fill_placed (s : BundleState) (source : Source) (content : Json) :
    (s.fill source content).placed directory =
      (s.placed directory).fill (source.placed directory) content := by
  simp only [placed, fill, List.map_map]
  congr 1
  refine List.map_congr_left fun relocation _ => ?_
  -- The relocations of the source are the same ones.
  by_cases same : relocation.source = source
  · simp [Relocation.placed, same]
  · have other : relocation.source.placed directory ≠ source.placed directory :=
      fun equal => same (Origin.placed_inj.mp equal)
    simp [Relocation.placed, same, other]

/-- A source has the relocation that it has without the directory. -/
theorem known?_placed (s : BundleState) (source : Source) :
    (s.placed directory).known? (source.placed directory) =
      (s.known? source).map (·.placed directory) := by
  -- The search stops at the same relocation, since different sources stay different.
  rw [known?, known?, placed, List.find?_map]
  congr 2
  funext relocation
  exact decide_eq_decide.mpr Origin.placed_inj

end BundleState

/-- A destination is free at every directory or at none. -/
theorem free_placed {workspace tree : FileTree} {root : Document} {s : BundleState} {source : Source}
    {destination : Pointer} :
    Free (Bundle.context tree (root.placed directory)) (s.placed directory) (source.placed directory)
        destination ↔
      Free (Bundle.context workspace root) s source destination := by
  constructor
  · -- The place of the root file does not matter, and clashing relocations clash at every
    -- directory.
    intro free
    refine ⟨free.vacant, fun relocation member different => ?_⟩
    refine free.apart (relocation.placed directory) (List.mem_map_of_mem member) ?_
    exact fun same => different (Origin.placed_inj.mp same)
  · intro free
    refine ⟨free.vacant, fun placed member different => ?_⟩
    obtain ⟨relocation, listed, rfl⟩ := List.mem_map.mp member
    exact free.apart relocation listed fun same => different (Origin.placed_inj.mpr same)

/-- The destination of a reference does not depend on the directory. -/
theorem destination?_placed {workspace tree : FileTree} {root : Document} {target : FilePath}
    (first : directory.Plain) (second : root.path.Plain) (third : target.Plain)
    (some_name : root.path ≠ []) (version : ApiVersion) (reference : Reference) (site : Pointer) :
    destination? (Bundle.context tree (root.placed directory)) version reference
        (directory ++ target) site =
      destination? (Bundle.context workspace root) version reference target site := by
  have above : (directory ++ root.path).directory = directory ++ root.path.directory :=
    List.dropLast_append_of_ne_nil some_name
  -- Of the files, only the path from one to the other becomes part of a destination.
  have same : relativePath (directory ++ root.path).directory.text (directory ++ target).text =
      relativePath root.path.directory.text target.text := by
    rw [above]
    exact FilePath.relativePath_append first second.dropLast third
  simp only [destination?, Bundle.context, Document.placed, same]

/-- Content goes to its destination without regard to the file that it comes from. -/
theorem Bundle.place_placed (document : Json) (relocations : List Relocation) :
    place document (relocations.map (Relocation.placed directory)) = place document relocations := by
  -- By induction on the relocations.
  induction relocations generalizing document with
  | nil => rfl
  | cons relocation rest ih =>
    -- Its destination and its content are those of the relocation.
    rw [List.map_cons, place, place, Relocation.placed]
    dsimp only
    cases document.insertAt? relocation.destination (relocation.content.getD .null) with
    | none => rfl
    | some filled => exact ih filled

end SpecTrace
