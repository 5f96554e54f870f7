import SpecTrace.Proofs.Path.Moved
import SpecTrace.Proofs.Reference.Relative

/-! A workspace that lies in some directory of a file system: paths that do not climb above the
directory lead to the same places of the workspace, and files are read as the same documents. -/

namespace SpecTrace

/-- A workspace stands at a directory of a tree. -/
structure Placed (workspace tree : FileTree) (directory : FilePath) : Prop where
  there : tree.get? directory = some workspace
  plain : directory.Plain

/-- The document of a workspace at a directory. -/
def Document.placed (directory : FilePath) (document : Document) : Document :=
  { document with path := directory ++ document.path }

/-- The documents that were read in a workspace at a directory. -/
def Session.placed (directory : FilePath) (session : Session) : Session :=
  ⟨session.documents.map (·.placed directory)⟩

namespace FileTree

variable {workspace tree : FileTree} {directory place : FilePath} {names : List PathName}

/-- A path is followed part by part. -/
theorem follow_append (tree : FileTree) (place : FilePath) (first second : List PathName) :
    tree.follow place (first ++ second) =
      tree.follow place first >>= fun reached => tree.follow reached second := by
  -- By induction on the first names: each is a failure, or leads to where the others go on.
  induction first generalizing place with
  | nil => rfl
  | cons name rest ih =>
    simp only [List.cons_append, follow]
    split
    · cases name with
      | bytes raw => rfl
      | text name =>
        dsimp only
        split
        · exact ih place
        · split
          · exact ih place.dropLast
          · split
            · exact ih _
            · rfl
    · rfl

/-- What stands below the directory of a workspace is what the workspace holds. -/
theorem get?_placed (there : tree.get? directory = some workspace) (place : FilePath) :
    tree.get? (directory ++ place) = workspace.get? place := by
  rw [get?_append, there, Option.bind_some]

/-- Names that do not climb above the directory are followed as they are in the workspace. -/
theorem follow_placed (there : tree.get? directory = some workspace)
    (stays : FilePath.staysInside place.length names = true) :
    tree.follow (directory ++ place) names =
      (workspace.follow place names).map (directory ++ ·) := by
  -- The number of names below the directory is the room that is left for going up.
  induction names generalizing place with
  | nil => rfl
  | cons name rest ih =>
    simp only [follow, get?_placed there]
    split
    · cases name with
      | bytes raw => rfl
      | text name =>
        rw [FilePath.staysInside] at stays
        dsimp only
        by_cases here : name = "" ∨ name = "."
        · rw [if_pos here] at stays ⊢
          rw [if_pos here]
          exact ih stays
        · rw [if_neg here] at stays ⊢
          rw [if_neg here]
          by_cases up : name = ".."
          · rw [if_pos up, Bool.and_eq_true, decide_eq_true_eq] at stays
            rw [if_pos up, if_pos up]
            -- The directory that is left is one of the workspace.
            have below : place ≠ [] := List.length_pos_iff.mp stays.1
            rw [List.dropLast_append_of_ne_nil below]
            refine ih ?_
            rw [List.length_dropLast]
            exact stays.2
          · rw [if_neg up] at stays
            rw [if_neg up, if_neg up, List.append_assoc, get?_placed there]
            split
            · refine ih ?_
              rw [List.length_append]
              exact stays
            · rfl
    · rfl

/-- Names that do not climb above a directory lead to a place below it. -/
theorem follow_inside (stays : FilePath.staysInside 0 names = true)
    (leads : tree.follow directory names = .ok place) : ∃ below, place = directory ++ below := by
  cases names with
  | nil =>
    cases leads
    exact ⟨[], (List.append_nil _).symm⟩
  | cons name rest =>
    -- The first name is looked up in the directory, so that is there.
    obtain ⟨workspace, there⟩ : ∃ workspace, tree.get? directory = some workspace := by
      rw [← Option.isSome_iff_exists]
      by_contra missing
      rw [Option.not_isSome_iff_eq_none] at missing
      simp [follow, missing] at leads
    have followed := @follow_placed _ _ _ [] _ there stays
    rw [List.append_nil, leads] at followed
    -- The path leads nowhere in both trees, or to the place below the directory.
    cases inner : workspace.follow [] (name :: rest) with
    | error fault =>
      rw [inner] at followed
      cases followed
    | ok below =>
      rw [inner] at followed
      exact ⟨below, Except.ok.inj followed⟩

/-- A path behind a directory is followed from the place that the directory leads to. -/
theorem resolve_append {path : List PathName} :
    tree.resolve (path ++ names) = .ok place ↔
      ∃ directory, tree.resolve path = .ok directory ∧
        (∀ name ∈ names, name.hasNul = false) ∧ tree.follow directory names = .ok place := by
  -- No name of either part may have a NUL in it.
  have clean : (∀ name ∈ names, name.hasNul = false) ↔ names.any PathName.hasNul = false := by
    simp
  rw [clean, resolve, resolve, List.any_append, follow_append]
  cases path.any PathName.hasNul with
  | true => simp
  | false =>
    cases names.any PathName.hasNul with
    | true => simp
    | false => simp [bind_eq_ok]

/-- The names of a place that stands in a tree lead to it from its root. -/
theorem follow_directory (placed : Placed workspace tree directory) :
    tree.follow [] directory.names = .ok directory := by
  refine follow_names ⟨?_, fun name member => (placed.plain name member).1⟩
  rw [List.nil_append, placed.there]
  rfl

/-- A path into the workspace that does not climb above its directory leads where it leads in the
workspace. -/
theorem resolve_placed (placed : Placed workspace tree directory)
    (stays : FilePath.staysInside 0 names = true) :
    tree.resolve (directory.names ++ names) = (workspace.resolve names).map (directory ++ ·) := by
  -- The names of the directory are looked at first, and no file has a NUL in its name.
  have clean : directory.names.any PathName.hasNul = false := by
    rw [List.any_eq_false]
    intro name member
    obtain ⟨text, present, rfl⟩ := List.mem_map.mp member
    simpa [PathName.hasNul] using (placed.plain text present).1.plain
  have followed : tree.follow [] (directory.names ++ names) =
      (workspace.follow [] names).map (directory ++ ·) := by
    rw [follow_append, follow_directory placed]
    have inside := @follow_placed _ _ _ [] _ placed.there stays
    rwa [List.append_nil] at inside
  rw [resolve, resolve, List.any_append, clean, Bool.false_or, followed]
  split <;> rfl

/-- Empty names stay in a directory. -/
theorem resolve_empty (tree : FileTree) (isDirectory : tree.isDirectory = true) (n : Nat)
    (names : List PathName) :
    tree.resolve (List.replicate n (.text "") ++ names) = tree.resolve names := by
  -- By induction on their number: an empty name is passed over at the root, which is a directory.
  induction n with
  | zero => rfl
  | succ n ih =>
    rw [← ih, List.replicate_succ, List.cons_append, resolve, resolve, List.any_cons]
    have clean : (PathName.text "").hasNul = false := rfl
    have here : (tree.get? []).any FileTree.isDirectory = true := by
      cases tree <;> exact isDirectory
    rw [clean, Bool.false_or, follow, if_pos here]
    rfl

end FileTree

namespace Session

variable {workspace tree : FileTree} {directory place : FilePath}

/-- The place that a path leads to holds a file with a name, or nothing can be read there. -/
theorem load_root (isDirectory : workspace.isDirectory = true) (document : Document) :
    load workspace [] ≠ .ok document := by
  cases workspace with
  | file content => cases isDirectory
  | directory entries =>
    intro loaded
    cases loaded

/-- A file of a workspace is read as the same document, wherever the workspace lies. -/
theorem load_placed (placed : Placed workspace tree directory) (proper : workspace.Proper)
    (isDirectory : workspace.isDirectory = true) (place : FilePath) :
    (load tree (directory ++ place)).toOption =
      (load workspace place).toOption.map (·.placed directory) := by
  have text : tree.readText (directory ++ place) = workspace.readText place := by
    rw [FileTree.readText, FileTree.readText, FileTree.get?_placed placed.there]
  rw [load, load, text]
  cases held : workspace.readText place with
  | error cause => rfl
  | ok content =>
    -- The format follows the name of the file, which the directory does not change.
    have format : Format.ofPath (directory ++ place).text = Format.ofPath place.text := by
      -- The file that was read stands in the workspace, so its names are proper.
      have there : (workspace.get? place).isSome = true := by
        unfold FileTree.readText at held
        split at held <;> simp_all
      obtain ⟨found, known⟩ := Option.isSome_iff_exists.mp there
      refine FilePath.ofPath_append placed.plain (proper.get? known).2 ?_
      rintro rfl
      cases workspace with
      | file content => cases isDirectory
      | directory entries => cases held
    show (Document.ofText _ _ content).toOption = ((Document.ofText _ _ content).toOption).map _
    rw [format]
    unfold Document.ofText
    split <;> rfl

/-- A document is found by its place in the workspace. -/
theorem find?_placed (directory : FilePath) (session : Session) (place : FilePath) :
    (session.placed directory).find? (directory ++ place) =
      (session.find? place).map (·.placed directory) := by
  rw [find?, find?, placed, List.find?_map]
  congr 2
  funext document
  simp [Document.placed]

/-- A document that is read in the workspace is added to those that were read. -/
theorem add_placed (directory : FilePath) (session : Session) (document : Document) :
    (session.add document).placed directory =
      (session.placed directory).add (document.placed directory) := by
  simp [add, placed]

/-- A request for a file of the workspace answers as it does in the workspace itself, wherever that
lies. -/
theorem document_placed_iff (placed : Placed workspace tree directory) (proper : workspace.Proper)
    (isDirectory : workspace.isDirectory = true) {path names : List PathName}
    (same : tree.resolve path = (workspace.resolve names).map (directory ++ ·)) (session : Session)
    {target : Document} {after : Session} :
    runFrom (Session.document tree path) (session.placed directory) = (.ok target, after) ↔
      ∃ document read, runFrom (Session.document workspace names) session = (.ok document, read) ∧
        target = document.placed directory ∧ after = read.placed directory := by
  -- Both requests go through the same cases: the path, the documents read before, and the file.
  rw [runFrom_document, runFrom_document, same]
  cases workspace.resolve names with
  | error fault => simp [Except.map]
  | ok place =>
    simp only [Except.map, find?_placed]
    cases session.find? place with
    | some known => simp [eq_comm]
    | none =>
      have loaded := load_placed placed proper isDirectory place
      dsimp only [Option.map_none]
      -- The file is read in both places, or in none of them.
      cases held : load workspace place with
      | error fault =>
        cases answer : load tree (directory ++ place) with
        | error other => simp
        | ok read =>
          rw [answer, held] at loaded
          cases loaded
      | ok document =>
        cases answer : load tree (directory ++ place) with
        | error other =>
          rw [answer, held] at loaded
          cases loaded
        | ok read =>
          rw [answer, held] at loaded
          cases loaded
          simp [← add_placed, eq_comm]

end Session

end SpecTrace
