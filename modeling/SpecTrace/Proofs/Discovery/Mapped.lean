import SpecTrace.Proofs.Discovery.Search
import SpecTrace.Proofs.Settings.Mapping
import SpecTrace.Proofs.Workspace.Moved

/-! Files that are mapped to an id are left out of a search, unless they are mapped by a detour: a
path that is absolute or goes up on its way is not recognised. -/

namespace SpecTrace.Discovery

variable {tree : FileTree} {directory : List PathName} {root place path : FilePath} {key : String}

/-! ### Paths without detours -/

/-- A path is absolute, or it goes up on its way. -/
def Detours (key : String) : Prop :=
  isAbsolutePath key = true ∨ .parent ∈ pathComponents key

instance (key : String) : Decidable (Detours key) :=
  inferInstanceAs (Decidable (_ ∨ _))

/-- Taken from a directory, two paths lead to the same place. -/
def SamePlace (tree : FileTree) (directory : List PathName) (path other : String) : Prop :=
  ∃ place, tree.resolve (joinNames directory path) = .ok place ∧
    tree.resolve (joinNames directory other) = .ok place

/-- The components of a path, but for a dot in front. -/
def stepsOf (key : String) : List PathComponent :=
  (pathComponents key).filter (· ≠ .current)

/-- A path whose components are all names takes no detour. -/
theorem straight_of_names {names : List String} (steps : stepsOf key = names.map .name) :
    ¬ Detours key := by
  have only : ∀ component ∈ pathComponents key, component ≠ .current →
      ∃ name, component = .name name := by
    intro component member other
    have listed : component ∈ stepsOf key := List.mem_filter.mpr ⟨member, decide_eq_true other⟩
    rw [steps] at listed
    obtain ⟨name, _, rfl⟩ := List.mem_map.mp listed
    exact ⟨name, rfl⟩
  rintro (absolute | up)
  · -- An absolute path begins with the root, which is no name.
    have begins := pathComponents_of_absolute absolute
    obtain ⟨name, same⟩ := only .root (by simp [begins]) nofun
    cases same
  · obtain ⟨name, same⟩ := only .parent up nofun
    cases same

/-- Parts that do not go up lead to the place of their names. -/
theorem follow_straight {parts : List String} (straight : ".." ∉ parts)
    (leads : tree.follow root (parts.map .text) = .ok place) :
    ∃ names, place = root ++ names ∧ parts.filterMap innerComponent? = names.map .name := by
  induction parts generalizing root with
  | nil =>
    cases leads
    exact ⟨[], (List.append_nil _).symm, rfl⟩
  | cons part rest ih =>
    obtain ⟨other, later⟩ := not_or.mp (List.mem_cons.not.mp straight)
    have down : part ≠ ".." := Ne.symm other
    rw [List.map_cons, FileTree.follow] at leads
    split at leads
    · split at leads
      · -- An empty part and a dot stand for no component.
        rename_i stays
        obtain ⟨names, rfl, steps⟩ := ih later leads
        have nothing : innerComponent? part = none := by rw [innerComponent?, if_pos stays]
        exact ⟨names, rfl, by rw [List.filterMap_cons_none nothing, steps]⟩
      · -- Any other part is a name, since none goes up.
        rename_i moves
        split at leads
        · obtain ⟨names, rfl, steps⟩ := ih later leads
          have named : innerComponent? part = some (.name part) := by
            rw [innerComponent?, if_neg moves, if_neg down]
          refine ⟨part :: names, by rw [List.append_assoc, List.singleton_append], ?_⟩
          rw [List.filterMap_cons_some named, steps, List.map_cons]
        · cases leads
    · cases leads

/-- A path that takes no detour leads to the place of its components. -/
theorem place_of_straight (resolved : tree.resolve directory = .ok root) (straight : ¬ Detours key)
    (leads : tree.resolve (joinNames directory key) = .ok place) :
    ∃ names, place = root ++ names ∧ stepsOf key = names.map .name := by
  obtain ⟨relative, down⟩ := not_or.mp straight
  have steps := pathComponents_of_relative (Bool.eq_false_of_not_eq_true relative)
  rw [joinNames, if_neg relative] at leads
  obtain ⟨base, same, _, followed⟩ := FileTree.resolve_append.mp leads
  cases resolved.symm.trans same
  rw [stepsOf, steps]
  refine follow_straight (fun up => down ?_) followed
  -- Two dots among the parts are a component.
  have listed : PathComponent.parent ∈ (pathComponents key).filter (· ≠ .current) := by
    rw [steps]
    exact List.mem_filterMap.mpr ⟨"..", up, by decide⟩
  exact List.mem_of_mem_filter listed

/-! ### Paths that are found -/

/-- The path of a file takes no detour, and its components are its names. -/
theorem straight_relativeText (plain : path.Plain) (below : path ≠ []) :
    isAbsolutePath (relativeText path) = false ∧ splitText '/' (relativeText path) = path ∧
      stepsOf (relativeText path) = path.map .name ∧ ¬ Detours (relativeText path) := by
  have parts : splitText '/' (relativeText path) = path := FilePath.splitText_intercalate plain below
  have relative : isAbsolutePath (relativeText path) = false := by
    refine Bool.eq_false_of_not_eq_true fun absolute => ?_
    -- An absolute path has an empty part in front.
    obtain ⟨rest, chars⟩ := List.head?_eq_some_iff.mp (of_decide_eq_true absolute)
    rw [splitText, chars, splitChars, if_pos rfl, List.map_cons] at parts
    exact (plain "" (parts ▸ List.mem_cons_self)).1.filled rfl
  have steps : stepsOf (relativeText path) = path.map .name := by
    rw [stepsOf, pathComponents_of_relative relative, parts, FilePath.filterMap_innerComponent? plain]
  exact ⟨relative, parts, steps, straight_of_names steps⟩

/-- Taken from the directory, the path of a file below it leads to the file. -/
theorem resolve_relativeText (resolved : tree.resolve directory = .ok root)
    (holds : tree.Holds (root ++ path)) (plain : path.Plain) (below : path ≠ []) :
    tree.resolve (joinNames directory (relativeText path)) = .ok (root ++ path) := by
  -- The path splits into the names again, none of which is a dot, so each is followed in turn.
  obtain ⟨relative, parts, _⟩ := straight_relativeText plain below
  rw [joinNames, parts, relative, if_neg Bool.false_ne_true,
    FileTree.resolve_append]
  refine ⟨root, resolved, fun name member => ?_, FileTree.follow_names holds⟩
  obtain ⟨text, listed, rfl⟩ := List.mem_map.mp member
  simpa [PathName.hasNul] using (plain text listed).1.plain

/-- A path that takes no detour leads to a file below the directory exactly if it has its names, as
long as it leads anywhere. -/
theorem samePlace_iff (resolved : tree.resolve directory = .ok root)
    (holds : tree.Holds (root ++ path)) (plain : path.Plain) (below : path ≠ [])
    (straight : ¬ Detours key) (there : tree.exists? (joinNames directory key) = true) :
    SamePlace tree directory (relativeText path) key ↔ stepsOf key = path.map .name := by
  -- The path of the file leads to it, and the key leads to a place below the same directory.
  have here := resolve_relativeText resolved holds plain below
  obtain ⟨place, leads⟩ : ∃ place, tree.resolve (joinNames directory key) = .ok place := by
    obtain ⟨place, known⟩ := Option.isSome_iff_exists.mp there
    exact ⟨place, toOption_eq_some.mp known⟩
  obtain ⟨names, rfl, steps⟩ := place_of_straight resolved straight leads
  -- Both paths lead to places below the directory, which are told apart by their names.
  rw [steps]
  constructor
  · rintro ⟨same, first, second⟩
    rw [here] at first
    rw [leads] at second
    cases first
    rw [List.append_cancel_left (Except.ok.inj second)]
  · intro same
    have names_eq : names = path :=
      List.map_injective_iff.mpr (fun _ _ equal => PathComponent.name.inj equal) same
    exact ⟨root ++ path, here, by rw [leads, names_eq]⟩

/-- The excluded paths only take away from what is found. -/
theorem find_eq_filter (tree : FileTree) (here : FilePath) (directory : String)
    (patterns excluded : List String) :
    find tree here directory patterns excluded =
      (find tree here directory patterns []).map fun all =>
        all.filter fun path => !isListed excluded path := by
  -- Both searches open the same directory and make the same selection, and they fail alike.
  unfold find
  dsimp only
  cases tree.resolve (here.join directory) with
  | error fault => rfl
  | ok root =>
    dsimp only
    split
    · cases made : Selection.ofPatterns .none patterns with
      | error fault => rfl
      | ok selection =>
        -- The filters are one after the other, in either order.
        refine congrArg Except.ok (Eq.trans ?_ List.filter_filter.symm)
        refine List.filter_congr fun path _ => ?_
        rw [show isListed [] path = false from rfl, Bool.not_false, Bool.and_true, Bool.and_right_comm]
        exact Bool.and_comm _ _
    · rfl

/-- What a search finds is a file below the directory, under plain names. -/
theorem plain_of_mem_find (proper : tree.Proper) {here : FilePath} {start : String}
    {patterns excluded : List String} {found : List FilePath}
    (answered : find tree here start patterns excluded = .ok found) (member : path ∈ found) :
    ∃ root, tree.resolve (here.join start) = .ok root ∧ tree.Holds (root ++ path) ∧ path.Plain ∧
      path ≠ [] := by
  -- A search answers for a directory only, and what it lists are files below that. All names of a
  -- proper tree are plain.
  unfold find at answered
  dsimp only at answered
  split at answered
  · cases answered
  rename_i root resolved
  split at answered
  · rename_i entries there
    obtain ⟨selection, _, made⟩ := bind_eq_ok.mp answered
    cases made
    obtain ⟨listed, _⟩ := List.mem_filter.mp member
    have inner := (proper.get? there).1
    obtain ⟨⟨content, inside⟩, _⟩ := (mem_filesBelow inner).mp listed
    have whole : tree.get? (root ++ path) = some (.file content) := by
      rw [FileTree.get?_append, there, Option.bind_some, inside]
    have names := (proper.get? whole).2
    refine ⟨root, resolved, ⟨by simp [whole], fun name known => (names name known).1⟩, ?_, ?_⟩
    · exact fun name known => names name (List.mem_append_right _ known)
    · rintro rfl
      exact not_isFile_nil entries ⟨content, inside⟩
  · cases answered

/-- A search that leaves out the mapped files finds what it finds otherwise, but for the files that
one of the mapped paths leads to. It takes such a file for another one, and finds it all the same, if
every path that leads there is absolute or goes up. -/
theorem mapped_files_are_found_by_detours (proper : tree.Proper) {here : FilePath} {start : String}
    {settings : Settings} {patterns : List String} {found : List FilePath}
    (loaded : Settings.load tree here start = .ok settings)
    (answered : find tree here start patterns (settings.mapping.map Prod.fst) = .ok found) :
    ∃ all, find tree here start patterns [] = .ok all ∧ ∀ path, path ∈ found ↔
      path ∈ all ∧ ∀ key ∈ settings.mapping.map Prod.fst,
        SamePlace tree (here.join start) (relativeText path) key → Detours key := by
  -- What is left out are the files whose path is listed, so the question is which keys spell the
  -- path.
  rw [find_eq_filter] at answered
  cases free : find tree here start patterns [] with
  | error fault => simp [free, Except.map] at answered
  | ok all =>
    rw [free] at answered
    cases answered
    refine ⟨all, rfl, fun path => ?_⟩
    rw [List.mem_filter]
    refine and_congr_right fun member => ?_
    obtain ⟨root, resolved, holds, plain, below⟩ := plain_of_mem_find proper free member
    rw [Bool.not_eq_true', ← Bool.not_eq_true, isListed, List.any_eq_true, not_exists]
    refine forall_congr' fun key => ?_
    rw [not_and, decide_eq_true_iff]
    refine forall_congr' fun mapped => ?_
    have there := Settings.exists_of_load loaded key mapped
    -- A path without detours leads to the file exactly if it is listed.
    have same := fun straight => samePlace_iff resolved holds plain below straight there
    constructor
    · intro unlisted leads
      by_contra straight
      exact unlisted ((same straight).mp leads)
    · intro detours listed
      have straight : ¬ Detours key := straight_of_names listed
      exact straight (detours ((same straight).mpr listed))

/-! ### A mapped file, by its name and by a detour -/

/-- Two documents and settings that map a path, beside an empty directory. -/
def treeMapping (key : String) : FileTree :=
  .directory
    [("a.yaml", declaration),
      ("apiaudit.yaml", .file (some ("audit:\n  mapping:\n    " ++ key ++
        ": 4a8d1c3e-2f6b-4c1d-9e7a-0b5c6d7e8f90\n"))),
      ("b.yaml", declaration), ("d", .directory [])]

/-- The tree is proper whatever path is mapped. -/
theorem proper_treeMapping (key : String) : (treeMapping key).Proper := by
  refine .add (by simp) ?_ .file (.add (by simp) ?_ .file (.add (by simp) ?_ .file
    (.add (by simp) ?_ .empty .empty)))
  all_goals exact ⟨⟨by decide, by decide, by decide, by decide⟩, by decide⟩

/-- The settings that map a path. -/
def settingsMapping (key : String) : Settings :=
  ⟨some Settings.defaultPatterns, [(key, "4a8d1c3e-2f6b-4c1d-9e7a-0b5c6d7e8f90")]⟩

/-- A search for YAML files finds both documents if nothing is left out. -/
theorem documents_of_treeMapping (key : String) :
    ∃ all, find (treeMapping key) [] "" ["**/*.yaml"] [] = .ok all ∧ ["a.yaml"] ∈ all ∧
      ["b.yaml"] ∈ all := by
  -- Both files match the only pattern and nothing excludes them. That they match is computed.
  have resolved : (treeMapping key).resolve (FilePath.join [] "") = .ok [] := rfl
  have there : (treeMapping key).get? [] = some (.directory (treeMapping key).entries) := rfl
  have valid : ∀ pattern ∈ ["**/*.yaml"], ∃ glob, globOf pattern = .ok glob := by
    simpa using ⟨_, globOf_yaml⟩
  have unexcluded : ∀ path, ¬ Excluded ["**/*.yaml"] path := by
    have including : ¬ Excluding "**/*.yaml" := by decide
    simp [Excluded, including]
  have unpruned : ∀ path, ¬ Pruned ["**/*.yaml"] path := by
    rintro path ⟨_, _, _, _, _, excluded, _⟩
    exact unexcluded _ excluded
  have selected : ∀ path, PatternMatches "**/*.yaml" path → Selected ["**/*.yaml"] path :=
    fun path matched => ⟨⟨_, List.mem_cons_self, by decide, matched⟩, unexcluded path⟩
  obtain ⟨all, answered, _, exactly⟩ := find_spec (proper_treeMapping key) resolved there valid []
  refine ⟨all, answered, (exactly _).mpr ⟨⟨⟨_, rfl⟩, selected _ ?_, by simp, ?_⟩, unpruned _⟩,
    (exactly _).mpr ⟨⟨⟨_, rfl⟩, selected _ ?_, by simp, ?_⟩, unpruned _⟩⟩
  · exact (patternMatches_iff globOf_yaml).mpr (by decide +kernel)
  · have named : fileName? (FilePath.text ["a.yaml"]) = some "a.yaml" := rfl
    exact isOpenApi_declaration rfl rfl named rfl
  · exact (patternMatches_iff globOf_yaml).mpr (by decide +kernel)
  · have named : fileName? (FilePath.text ["b.yaml"]) = some "b.yaml" := rfl
    exact isOpenApi_declaration rfl rfl named rfl

/-- A file that is mapped by its name, with a dot in front, is left out, and the other one is
found. -/
theorem named_file_is_left_out :
    ∃ found, Settings.load (treeMapping "./a.yaml") [] "" = .ok (settingsMapping "./a.yaml") ∧
      find (treeMapping "./a.yaml") [] "" ["**/*.yaml"] ["./a.yaml"] = .ok found ∧
      ["a.yaml"] ∉ found ∧ ["b.yaml"] ∈ found := by
  -- Whether a file is left out is answered by the general theorem, with the mapping of one key.
  have loaded : Settings.load (treeMapping "./a.yaml") [] "" = .ok (settingsMapping "./a.yaml") :=
    toOption_eq_some.mp (by decide +kernel)
  obtain ⟨all, free, first, second⟩ := documents_of_treeMapping "./a.yaml"
  have answered := find_eq_filter (treeMapping "./a.yaml") [] "" ["**/*.yaml"] ["./a.yaml"]
  rw [free] at answered
  obtain ⟨_, same, exactly⟩ :=
    mapped_files_are_found_by_detours (proper_treeMapping "./a.yaml") loaded answered
  cases free.symm.trans same
  refine ⟨_, loaded, answered, fun member => ?_, (exactly _).mpr ⟨second, fun key listed => ?_⟩⟩
  · -- The mapped path leads to the file and takes no detour.
    have leads : SamePlace (treeMapping "./a.yaml") (FilePath.join [] "") "a.yaml" "./a.yaml" :=
      ⟨["a.yaml"], rfl, rfl⟩
    exact absurd (((exactly _).mp member).2 _ List.mem_cons_self leads) (by decide)
  · cases List.mem_singleton.mp listed
    rintro ⟨place, here, there⟩
    cases here
    cases there

/-- A file that is mapped by a path through another directory is found all the same. -/
theorem detour_is_overlooked :
    ∃ found, Settings.load (treeMapping "d/../a.yaml") [] "" = .ok (settingsMapping "d/../a.yaml") ∧
      find (treeMapping "d/../a.yaml") [] "" ["**/*.yaml"] ["d/../a.yaml"] = .ok found ∧
      ["a.yaml"] ∈ found ∧
      SamePlace (treeMapping "d/../a.yaml") (FilePath.join [] "") "a.yaml" "d/../a.yaml" := by
  -- The unrestricted search finds the file, and its path is not among the listed ones as it is
  -- spelled.
  have loaded : Settings.load (treeMapping "d/../a.yaml") [] "" =
      .ok (settingsMapping "d/../a.yaml") :=
    toOption_eq_some.mp (by decide +kernel)
  obtain ⟨all, free, first, _⟩ := documents_of_treeMapping "d/../a.yaml"
  have answered := find_eq_filter (treeMapping "d/../a.yaml") [] "" ["**/*.yaml"] ["d/../a.yaml"]
  rw [free] at answered
  have unlisted : isListed ["d/../a.yaml"] ["a.yaml"] = false := by decide
  refine ⟨_, loaded, answered, List.mem_filter.mpr ⟨first, ?_⟩, ["a.yaml"], rfl, rfl⟩
  rw [unlisted, Bool.not_false]

end SpecTrace.Discovery
