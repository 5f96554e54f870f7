import SpecTrace.Discovery.Discovery
import SpecTrace.Proofs.Text.Order
import SpecTrace.Proofs.Workspace.Places

/-! The walk through a directory lists every file that is in no skipped directory, once each and in
the order of the names on the way. -/

namespace SpecTrace.Discovery

open FileTree

variable {selection : Selection} {above path : FilePath}

/-- The entries are searched one by one. -/
theorem filesInEntries_eq (selection : Selection) (above : FilePath)
    (entries : List (String × FileTree)) :
    filesInEntries selection above entries =
      entries.map fun entry => (entry.1, filesIn selection (above ++ [entry.1]) entry.2) := by
  induction entries with
  | nil => rfl
  | cons entry rest ih => rw [filesInEntries, ih, List.map_cons]

/-- The files in the entries of a directory, in the order of the names. -/
def sortedFiles (selection : Selection) (above : FilePath) (entries : List (String × FileTree)) :
    List FilePath :=
  (sortByText Prod.fst (filesInEntries selection above entries)).flatMap Prod.snd

/-- The files in the entries are those that are found in one of them. -/
theorem mem_sortedFiles {entries : List (String × FileTree)} :
    path ∈ sortedFiles selection above entries ↔
      ∃ entry ∈ entries, path ∈ filesIn selection (above ++ [entry.1]) entry.2 := by
  -- Sorting loses nothing, so a file is listed just if it is listed for one of the entries.
  simp only [sortedFiles, List.mem_flatMap, mem_sortByText, filesInEntries_eq, List.mem_map]
  constructor
  · rintro ⟨_, ⟨entry, member, rfl⟩, inside⟩
    exact ⟨entry, member, inside⟩
  · rintro ⟨entry, member, inside⟩
    exact ⟨_, ⟨entry, member, rfl⟩, inside⟩

/-- A path leads to a file. -/
def IsFile (tree : FileTree) (path : FilePath) : Prop :=
  ∃ content, tree.get? path = some (.file content)

/-- The directory itself is no file. -/
theorem not_isFile_nil (entries : List (String × FileTree)) : ¬ IsFile (.directory entries) [] := by
  rintro ⟨content, there⟩
  cases there

/-- A path with a name in front leads to a file if the rest does so from the entry of that name. -/
theorem isFile_cons {entries : List (String × FileTree)} {name : String} {rest : FilePath} :
    IsFile (.directory entries) (name :: rest) ↔
      ∃ inner, lookupMember? entries name = some inner ∧ IsFile inner rest := by
  -- Both sides say that the entry is there and that the rest leads to a file in it.
  simp only [IsFile, get?, Option.bind_eq_some_iff]
  constructor
  · rintro ⟨content, inner, known, there⟩
    exact ⟨inner, known, content, there⟩
  · rintro ⟨inner, known, content, there⟩
    exact ⟨content, inner, known, there⟩

/-- No directory on the way from a place to what is below it is skipped, the place itself included. -/
def Open (selection : Selection) (above rest : FilePath) : Prop :=
  ∀ front name back, rest = front ++ name :: back →
    selection.excludesAllIn (relativeText (above ++ front)) = false

/-- The way is open behind a name if the place is not skipped and the rest of the way is open. -/
theorem open_cons {name : String} {rest : FilePath} :
    Open selection above (name :: rest) ↔
      selection.excludesAllIn (relativeText above) = false ∧
        Open selection (above ++ [name]) rest := by
  constructor
  · intro every
    refine ⟨?_, fun front next back split => ?_⟩
    · have here := every [] name rest rfl
      rwa [List.append_nil] at here
    · have further := every (name :: front) next back (by rw [split, List.cons_append])
      rwa [List.append_assoc, List.singleton_append]
  · rintro ⟨here, further⟩ front next back split
    -- A directory on the way is the place itself, or it is behind the first name.
    cases front with
    | nil => rwa [List.append_nil]
    | cons first front =>
      obtain ⟨rfl, behind⟩ := List.cons.inj split
      have below := further front next back behind
      rwa [List.append_assoc, List.singleton_append] at below

/-- The files in the entries of a directory are those of which the way is open behind the name of the
entry, if this is so for every entry. -/
theorem mem_sortedFiles_iff {entries : List (String × FileTree)}
    (names : (entries.map Prod.fst).Nodup)
    (each : ∀ entry ∈ entries, path ∈ filesIn selection (above ++ [entry.1]) entry.2 ↔
      ∃ rest, path = above ++ [entry.1] ++ rest ∧ IsFile entry.2 rest ∧
        Open selection (above ++ [entry.1]) rest) :
    path ∈ sortedFiles selection above entries ↔
      ∃ name rest, path = above ++ name :: rest ∧ IsFile (.directory entries) (name :: rest) ∧
        Open selection (above ++ [name]) rest := by
  rw [mem_sortedFiles]
  constructor
  · rintro ⟨⟨name, inner⟩, member, inside⟩
    obtain ⟨rest, rfl, file, way⟩ := (each _ member).mp inside
    -- No other entry has the name, so the name leads to this one.
    have known := lookupMember?_of_mem names member
    exact ⟨name, rest, by simp, isFile_cons.mpr ⟨inner, known, file⟩, way⟩
  · rintro ⟨name, rest, rfl, file, way⟩
    obtain ⟨inner, known, inside⟩ := isFile_cons.mp file
    have member := lookupMember?_mem known
    exact ⟨(name, inner), member, (each _ member).mpr ⟨rest, by simp, inside, way⟩⟩

/-- The files of a tree that stands at a place are those to which the way is open. -/
theorem mem_filesIn {tree : FileTree} (proper : tree.Proper) :
    path ∈ filesIn selection above tree ↔
      ∃ rest, path = above ++ rest ∧ IsFile tree rest ∧ Open selection above rest := by
  -- By induction on the tree, with the way above it general: the way to an entry is longer by the
  -- name of its directory.
  induction tree using entries_induction generalizing above with
  | file content =>
    rw [filesIn, List.mem_singleton]
    constructor
    · rintro rfl
      refine ⟨[], (List.append_nil _).symm, ⟨content, rfl⟩, ?_⟩
      intro front name back split
      simp at split
    · rintro ⟨rest, rfl, ⟨_, there⟩, _⟩
      -- Nothing is inside of a file.
      cases rest with
      | nil => exact List.append_nil _
      | cons name rest => cases there
  | directory entries each =>
    cases proper with
    | directory names _ below =>
      rw [filesIn]
      split
      · -- In a directory that is skipped, no way is open.
        rename_i skipped
        refine ⟨by simp, ?_⟩
        rintro ⟨rest, rfl, file, way⟩
        cases rest with
        | nil => exact absurd file (not_isFile_nil entries)
        | cons name rest => simp [(open_cons.mp way).1] at skipped
      · rename_i entered
        have unskipped : selection.excludesAllIn (relativeText above) = false := by simpa using entered
        refine (mem_sortedFiles_iff names fun entry member =>
          each entry member (below entry member)).trans ⟨?_, ?_⟩
        · rintro ⟨name, rest, rfl, file, way⟩
          exact ⟨name :: rest, rfl, file, open_cons.mpr ⟨unskipped, way⟩⟩
        · rintro ⟨rest, rfl, file, way⟩
          cases rest with
          | nil => exact absurd file (not_isFile_nil entries)
          | cons name rest => exact ⟨name, rest, rfl, file, (open_cons.mp way).2⟩

/-- The files below the root are those with no skipped directory strictly between the root and
them. -/
theorem mem_filesBelow {entries : List (String × FileTree)} (proper : (directory entries).Proper) :
    path ∈ filesBelow selection entries ↔
      IsFile (.directory entries) path ∧ ∀ front name back, path = front ++ name :: back → front ≠ [] →
        selection.excludesAllIn (relativeText front) = false := by
  -- The root itself is never skipped, so the way begins at one of its entries.
  cases proper with
  | directory names _ below =>
    refine (mem_sortedFiles_iff names fun entry member =>
      mem_filesIn (below entry member)).trans ⟨?_, ?_⟩
    · rintro ⟨name, rest, rfl, file, way⟩
      refine ⟨file, ?_⟩
      intro front next back split filled
      obtain ⟨first, front, rfl⟩ := List.exists_cons_of_ne_nil filled
      obtain ⟨rfl, behind⟩ := List.cons.inj split
      exact way front next back behind
    · rintro ⟨file, unskipped⟩
      cases path with
      | nil => exact absurd file (not_isFile_nil entries)
      | cons name rest =>
        -- Every directory on the rest of the way is below the root.
        refine ⟨name, rest, rfl, file, fun front next back split => ?_⟩
        exact unskipped (name :: front) next back (by rw [split]; rfl) (by simp)

/-- Paths in the order of their names, from the first on that differs. -/
def Earlier (p q : FilePath) : Prop :=
  compareLists compareText p q = .lt

/-- Below one place, the names there decide about the order. -/
theorem earlier_of_names {first second : String} (less : compareText first second = .lt)
    (p q : FilePath) : Earlier (above ++ [first] ++ p) (above ++ [second] ++ q) := by
  show compareLists compareText _ _ = .lt
  rw [List.append_assoc, List.append_assoc, compareLists_append, List.singleton_append,
    List.singleton_append, compareLists, less, Ordering.lt_then]

/-- The files in the entries of a directory are in order, if those in each entry are. -/
theorem sortedFiles_pairwise {entries : List (String × FileTree)}
    (proper : (directory entries).Proper)
    (each : ∀ entry ∈ entries, (filesIn selection (above ++ [entry.1]) entry.2).Pairwise Earlier) :
    (sortedFiles selection above entries).Pairwise Earlier := by
  cases proper with
  | directory names _ below =>
    rw [sortedFiles, List.pairwise_flatMap]
    -- The parts that are joined are those that the entries give.
    have found : ∀ pair ∈ sortByText Prod.fst (filesInEntries selection above entries),
        ∃ entry ∈ entries, (entry.1, filesIn selection (above ++ [entry.1]) entry.2) = pair := by
      intro pair member
      rwa [mem_sortByText, filesInEntries_eq, List.mem_map] at member
    constructor
    · intro pair member
      obtain ⟨entry, present, rfl⟩ := found pair member
      exact each entry present
    · have distinct : ((filesInEntries selection above entries).map Prod.fst).Nodup := by
        rw [filesInEntries_eq, List.map_map]
        exact names
      refine (sortByText_pairwise distinct).imp_of_mem ?_
      -- Files of different entries differ in the name of the entry first.
      intro one other memberOne memberOther less p inOne q inOther
      obtain ⟨first, presentFirst, rfl⟩ := found one memberOne
      obtain ⟨second, presentSecond, rfl⟩ := found other memberOther
      obtain ⟨restOne, rfl, _⟩ := (mem_filesIn (below _ presentFirst)).mp inOne
      obtain ⟨restOther, rfl, _⟩ := (mem_filesIn (below _ presentSecond)).mp inOther
      exact earlier_of_names less restOne restOther

/-- The files of a tree are listed in order. -/
theorem filesIn_pairwise {tree : FileTree} (proper : tree.Proper) :
    (filesIn selection above tree).Pairwise Earlier := by
  induction tree using entries_induction generalizing above with
  | file content =>
    rw [filesIn]
    exact List.pairwise_singleton _ _
  | directory entries each =>
    rw [filesIn]
    split
    · exact List.Pairwise.nil
    · -- By induction the files of every entry are listed in order.
      refine sortedFiles_pairwise proper ?_
      cases proper with
      | directory _ _ below => exact fun entry member => each entry member (below entry member)

/-- The files below the root are listed in order. -/
theorem filesBelow_pairwise {entries : List (String × FileTree)}
    (proper : (directory entries).Proper) : (filesBelow selection entries).Pairwise Earlier := by
  refine sortedFiles_pairwise proper ?_
  cases proper with
  | directory _ _ below => exact fun entry member => filesIn_pairwise (below entry member)

end SpecTrace.Discovery
