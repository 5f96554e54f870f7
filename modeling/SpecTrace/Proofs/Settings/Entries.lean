import Mathlib.Data.List.Dedup
import Mathlib.Data.List.Induction
import SpecTrace.Proofs.Path.Order
import SpecTrace.Proofs.Settings.Mapping
import SpecTrace.Proofs.Workspace.Moved

/-! The entries of an accepted mapping section. All of them are valid, and they are all kept unless a
path is listed in two spellings: entries are told apart by the texts of their files, and stored by the
components of their paths. -/

namespace SpecTrace.Settings

/-! ### Stored entries -/

variable {tree : FileTree} {root : List PathName} {mapping pairs : List (String × String)}
  {file id text : String} {sections : Sections}

/-- Files with their ids are in the order of their paths. -/
def Ordered (mapping : List (String × String)) : Prop :=
  mapping.Pairwise fun one other => comparePaths one.1 other.1 = .lt

/-- The paths of files, whatever their spelling. -/
def pathsOf (pairs : List (String × String)) : List (List PathComponent) :=
  pairs.map fun pair => pathComponents pair.1

/-- No path is listed twice, in whatever spellings. -/
def SpelledOnce (pairs : List (String × String)) : Prop :=
  (pathsOf pairs).Nodup

/-- Whether a path is listed twice can be computed. -/
instance (pairs : List (String × String)) : Decidable (SpelledOnce pairs) :=
  inferInstanceAs (Decidable (List.Nodup _))

/-- The id that is listed first for a file, under any spelling of its path. -/
def idOf? (pairs : List (String × String)) (file : String) : Option String :=
  (pairs.find? fun pair => pathComponents pair.1 = pathComponents file).map Prod.snd

/-- The first file decides if it has the path, otherwise the others do. -/
theorem idOf?_cons (stored id : String) (rest : List (String × String)) (file : String) :
    idOf? ((stored, id) :: rest) file =
      if pathComponents stored = pathComponents file then some id else idOf? rest file := by
  by_cases same : pathComponents stored = pathComponents file <;> simp [idOf?, same]

/-- Where no path repeats, every file is found with its id. -/
theorem idOf?_of_mem (once : SpelledOnce pairs) {pair : String × String} (member : pair ∈ pairs) :
    idOf? pairs pair.1 = some pair.2 := by
  induction pairs with
  | nil => cases member
  | cons first rest ih =>
    obtain ⟨alone, others⟩ := List.nodup_cons.mp once
    rw [idOf?_cons]
    rcases List.mem_cons.mp member with rfl | later
    · exact if_pos rfl
    · -- The path of the first file is not the one of a later file.
      have different : pathComponents first.1 ≠ pathComponents pair.1 := by
        intro same
        exact alone (List.mem_map.mpr ⟨pair, later, same.symm⟩)
      rw [if_neg different, ih others later]

/-- An id is stored for a path, and the ids of other paths stay. -/
theorem idOf?_insertMapped (mapping : List (String × String)) (file id other : String) :
    idOf? (insertMapped mapping file id) other =
      if pathComponents file = pathComponents other then some id else idOf? mapping other := by
  -- The new path is compared with the paths in their order, up to the first that is not before it.
  induction mapping with
  | nil => rw [insertMapped, idOf?_cons]
  | cons entry rest ih =>
    obtain ⟨stored, old⟩ := entry
    rw [insertMapped]
    cases order : comparePaths file stored with
    | lt => exact idOf?_cons file id _ other
    | eq =>
      -- The entry keeps its spelling and gets the new id.
      rw [idOf?_cons, idOf?_cons, comparePaths_eq_eq_iff.mp order]
      split <;> rfl
    | gt =>
      dsimp only
      rw [idOf?_cons, idOf?_cons, ih]
      have different : pathComponents file ≠ pathComponents stored := by
        intro same
        rw [comparePaths_eq_eq_iff.mpr same] at order
        cases order
      by_cases here : pathComponents stored = pathComponents other
      · rw [if_pos here, if_pos here, if_neg (here ▸ different)]
      · rw [if_neg here, if_neg here]

/-- The paths that are stored are the new one and those before. -/
theorem mem_pathsOf_insertMapped {path : List PathComponent} :
    path ∈ pathsOf (insertMapped mapping file id) ↔
      path = pathComponents file ∨ path ∈ pathsOf mapping := by
  -- By induction on the mapping: the new path goes in front of a larger one, takes the place of an
  -- equal one, or goes behind a smaller one.
  induction mapping with
  | nil => simp [insertMapped, pathsOf]
  | cons entry rest ih =>
    obtain ⟨stored, old⟩ := entry
    rw [insertMapped]
    cases order : comparePaths file stored with
    | lt => exact List.mem_cons
    | eq => simp [pathsOf, comparePaths_eq_eq_iff.mp order]
    | gt =>
      dsimp only
      rw [pathsOf, List.map_cons, List.mem_cons, ← pathsOf, ih, pathsOf, pathsOf, List.map_cons,
        List.mem_cons]
      exact or_left_comm

/-- Storing an id keeps the order of the paths. -/
theorem ordered_insertMapped (ordered : Ordered mapping) (file id : String) :
    Ordered (insertMapped mapping file id) := by
  -- By induction on the mapping, with the place of the new path found by comparison.
  induction mapping with
  | nil => exact List.pairwise_singleton _ _
  | cons entry rest ih =>
    obtain ⟨stored, old⟩ := entry
    obtain ⟨first, later⟩ := List.pairwise_cons.mp ordered
    rw [insertMapped]
    cases order : comparePaths file stored with
    | lt =>
      refine List.pairwise_cons.mpr ⟨?_, ordered⟩
      exact List.forall_mem_cons.mpr
        ⟨order, fun other member => comparePaths_lt_trans order (first other member)⟩
    | eq => exact List.pairwise_cons.mpr ⟨first, later⟩
    | gt =>
      refine List.pairwise_cons.mpr ⟨fun other member => ?_, ih later⟩
      -- What is behind the entry is the new file or was there before.
      rcases mem_insertMapped (List.mem_map_of_mem member) with same | before
      · rw [same]
        exact comparePaths_eq_gt_iff.mp order
      · obtain ⟨known, listed, same⟩ := List.mem_map.mp before
        rw [← same]
        exact first known listed

/-- In the order of paths, no path repeats. -/
theorem Ordered.spelledOnce (ordered : Ordered mapping) : SpelledOnce mapping := by
  refine List.pairwise_map.mpr (ordered.imp fun {one other} before same => ?_)
  rw [comparePaths_eq_eq_iff.mpr same] at before
  cases before

/-- The mapping in which files are stored one after the other. -/
def stored (pairs : List (String × String)) : List (String × String) :=
  pairs.foldl (fun mapping pair => insertMapped mapping pair.1 pair.2) []

/-- One more file is stored in the mapping. -/
theorem stored_snoc (pairs : List (String × String)) (pair : String × String) :
    stored (pairs ++ [pair]) = insertMapped (stored pairs) pair.1 pair.2 := by
  simp [stored]

/-- A mapping is in the order of paths, has the paths of the files, and has the id that was stored last
for each of them. -/
theorem stored_spec (pairs : List (String × String)) :
    Ordered (stored pairs) ∧ (∀ path, path ∈ pathsOf (stored pairs) ↔ path ∈ pathsOf pairs) ∧
      ∀ file, idOf? (stored pairs) file = idOf? pairs.reverse file := by
  -- From the end, since the file that is stored last decides.
  induction pairs using List.reverseRecOn with
  | nil => exact ⟨List.Pairwise.nil, fun _ => Iff.rfl, fun _ => rfl⟩
  | append_singleton front pair ih =>
    obtain ⟨ordered, paths, ids⟩ := ih
    rw [stored_snoc]
    refine ⟨ordered_insertMapped ordered _ _, fun path => ?_, fun file => ?_⟩
    · rw [mem_pathsOf_insertMapped, paths, pathsOf, pathsOf, List.map_append, List.mem_append,
        or_comm]
      simp
    · rw [idOf?_insertMapped, ids, List.reverse_append, List.reverse_singleton,
        List.singleton_append, idOf?_cons]

/-- A mapping has as many files as are stored in it exactly if no path is listed twice. -/
theorem length_stored_iff : (stored pairs).length = pairs.length ↔ SpelledOnce pairs := by
  obtain ⟨ordered, paths, _⟩ := stored_spec pairs
  -- The paths of the mapping are those of the files without repetitions.
  have same : (pathsOf (stored pairs)).Perm (pathsOf pairs).dedup := by
    refine (List.perm_ext_iff_of_nodup ordered.spelledOnce (List.nodup_dedup _)).mpr fun path => ?_
    rw [paths, List.mem_dedup]
  have lengths : (stored pairs).length = (pathsOf pairs).dedup.length := by
    rw [← same.length_eq, pathsOf, List.length_map]
  rw [lengths, SpelledOnce, ← List.dedup_eq_self]
  -- A list without its repetitions is as long as before only if it had none.
  constructor
  · intro equal
    refine (List.dedup_sublist _).eq_of_length ?_
    rw [equal, pathsOf, List.length_map]
  · intro equal
    rw [equal, pathsOf, List.length_map]

/-- A mapping has the id of each file that is stored in it exactly if no path is listed twice, where
the ids differ. -/
theorem ids_stored_iff (apart : (pairs.map Prod.snd).Nodup) :
    (∀ pair ∈ pairs, idOf? (stored pairs) pair.1 = some pair.2) ↔ SpelledOnce pairs := by
  obtain ⟨_, _, ids⟩ := stored_spec pairs
  simp only [ids]
  constructor
  · intro kept
    refine List.pairwise_map.mpr ((List.pairwise_map.mp apart).imp_of_mem ?_)
    rintro one other first second different same
    -- Two spellings of a path would have one id.
    have equal : idOf? pairs.reverse one.1 = idOf? pairs.reverse other.1 := by
      rw [idOf?, idOf?, same]
    rw [kept one first, kept other second] at equal
    exact different (Option.some.inj equal)
  · intro once pair member
    refine idOf?_of_mem ?_ (List.mem_reverse.mpr member)
    rw [SpelledOnce, pathsOf, List.map_reverse]
    exact List.nodup_reverse.mpr once

/-! ### Accepted sections -/

/-- A path that is taken from a directory and never climbs above it. -/
def StaysInside (file : String) : Prop :=
  isAbsolutePath file = false ∧
    FilePath.staysInside 0 ((splitText '/' file).map PathName.text) = true

/-- Whether a path never climbs above its directory can be computed. -/
instance (file : String) : Decidable (StaysInside file) :=
  inferInstanceAs (Decidable (_ ∧ _))

/-- A path that leads anywhere and never climbs above its directory leads to a place below that. -/
theorem leads_inside {file : String} (there : tree.exists? (joinNames root file) = true)
    (inside : StaysInside file) :
    ∃ base below, tree.resolve root = .ok base ∧
      tree.resolve (joinNames root file) = .ok (base ++ below) := by
  -- The directory is reached first, and from there the path takes only steps below it.
  obtain ⟨relative, stays⟩ := inside
  obtain ⟨place, found⟩ := Option.isSome_iff_exists.mp there
  have leads := toOption_eq_some.mp found
  rw [joinNames, relative, if_neg Bool.false_ne_true] at leads ⊢
  obtain ⟨base, resolved, _, followed⟩ := FileTree.resolve_append.mp leads
  obtain ⟨below, rfl⟩ := FileTree.follow_inside stays followed
  exact ⟨base, below, resolved, leads⟩

/-- Sorting by file changes nothing about which paths are listed twice. -/
theorem spelledOnce_sortByText (pairs : List (String × String)) :
    SpelledOnce (sortByText Prod.fst pairs) ↔ SpelledOnce pairs :=
  ((List.mergeSort_perm pairs _).map _).nodup_iff

/-- A mapping section is accepted exactly if every file in it exists, every id is a UUID, and no two
ids are the same without regard to case. Each path is kept once, so that the section is kept whole,
every file with its id, exactly if no path is listed in two spellings. Of several spellings the last
one decides, in the order of texts. A file whose path never climbs above the root directory stands
below that. -/
theorem accepted_mapping_is_kept_iff (read : Sections.ofText? text = some sections) :
    (sections.mapping.map Prod.fst).Nodup ∧
    ((∃ settings, ofText tree root text = .ok settings) ↔
      (∀ entry ∈ sections.mapping,
        tree.exists? (joinNames root entry.1) = true ∧ IsUuid entry.2) ∧
      (sections.mapping.map fun entry => entry.2.toLower).Nodup) ∧
    ∀ settings, ofText tree root text = .ok settings →
      SpelledOnce settings.mapping ∧
      (settings.mapping.length = sections.mapping.length ↔ SpelledOnce sections.mapping) ∧
      ((∀ entry ∈ sections.mapping, idOf? settings.mapping entry.1 = some entry.2) ↔
        SpelledOnce sections.mapping) ∧
      (∀ file, idOf? settings.mapping file =
        idOf? (sortByText Prod.fst sections.mapping).reverse file) ∧
      ∀ entry ∈ sections.mapping, StaysInside entry.1 →
        ∃ base below, tree.resolve root = .ok base ∧
          tree.resolve (joinNames root entry.1) = .ok (base ++ below) := by
  -- The text is read, so acceptance is that of the sections: they are sorted, checked, and stored
  -- one by one.
  have same : ofText tree root text = ofSections tree root sections := by rw [ofText, read]
  have sorted : (sortByText Prod.fst sections.mapping).Perm sections.mapping :=
    List.mergeSort_perm _ _
  -- Checking does not depend on the order in which the files are checked.
  have valid : checkMapping tree root [] (sortByText Prod.fst sections.mapping) = .ok () ↔
      (∀ entry ∈ sections.mapping,
        tree.exists? (joinNames root entry.1) = true ∧ IsUuid entry.2) ∧
      (sections.mapping.map fun entry => entry.2.toLower).Nodup := by
    rw [checkMapping_eq_ok_iff, (sorted.map _).nodup_iff]
    simp only [mem_sortByText, isId_iff, lookupMember?_nil, implies_true, and_true]
    rfl
  rw [same]
  refine ⟨Sections.nodup_of_ofText? read, exists_ofSections_iff.trans valid, ?_⟩
  intro settings made
  obtain ⟨checked, kept⟩ := ofSections_eq_ok made
  obtain ⟨each, folded⟩ := valid.mp checked
  rw [show settings.mapping = stored (sortByText Prod.fst sections.mapping) from kept]
  obtain ⟨ordered, _, last⟩ := stored_spec (sortByText Prod.fst sections.mapping)
  refine ⟨ordered.spelledOnce, ?_, ?_, last, fun entry member => leads_inside (each entry member).1⟩
  · rw [← sorted.length_eq, length_stored_iff, spelledOnce_sortByText]
  · -- Ids that differ without regard to case differ.
    have apart : ((sortByText Prod.fst sections.mapping).map Prod.snd).Nodup := by
      rw [(sorted.map _).nodup_iff]
      refine List.Nodup.of_map String.toLower ?_
      rwa [List.map_map]
    rw [← spelledOnce_sortByText, ← ids_stored_iff apart]
    simp only [mem_sortByText]

/-- Two files, one of them in a directory. -/
def twoFiles : FileTree :=
  .directory
    [("b.yaml", .file (some "")), ("d", .directory [("a.yaml", .file (some ""))])]

/-- A mapping section that lists two paths, with two ids. -/
def sectionListing (first second : String) : Sections :=
  ⟨none, [(first, "4a8d1c3e-2f6b-4c1d-9e7a-0b5c6d7e8f90"),
    (second, "0F1E2D3C-4B5A-4968-8776-5A4B3C2D1E0F")]⟩

/-- The settings text with that section. -/
def textListing (first second : String) : String :=
  "audit:\n  mapping:\n    " ++ first ++ ": 4a8d1c3e-2f6b-4c1d-9e7a-0b5c6d7e8f90\n    " ++ second ++
    ": 0F1E2D3C-4B5A-4968-8776-5A4B3C2D1E0F\n"

/-- Two files are kept with their ids, though one of them is listed with a slash too many. -/
theorem two_files_are_kept :
    ∃ settings, ofText twoFiles [] (textListing "d//a.yaml" "b.yaml") = .ok settings ∧
      settings.mapping.length = 2 ∧
      idOf? settings.mapping "d//a.yaml" = some "4a8d1c3e-2f6b-4c1d-9e7a-0b5c6d7e8f90" ∧
      idOf? settings.mapping "b.yaml" = some "0F1E2D3C-4B5A-4968-8776-5A4B3C2D1E0F" ∧
      ∃ base below, twoFiles.resolve [] = .ok base ∧
        twoFiles.resolve (joinNames [] "d//a.yaml") = .ok (base ++ below) := by
  -- No two paths are the same when they are compared component by component, which is computed.
  have read : Sections.ofText? (textListing "d//a.yaml" "b.yaml") =
      some (sectionListing "d//a.yaml" "b.yaml") := by decide +kernel
  have once : SpelledOnce (sectionListing "d//a.yaml" "b.yaml").mapping := by decide +kernel
  obtain ⟨_, accepted, kept⟩ := @accepted_mapping_is_kept_iff twoFiles [] _ _ read
  obtain ⟨settings, made⟩ := accepted.mpr (by decide +kernel)
  obtain ⟨_, count, ids, _, inside⟩ := kept settings made
  have first := ids.mpr once
  refine ⟨settings, made, count.mpr once, first (_, _) List.mem_cons_self, ?_, ?_⟩
  · exact first (_, _) (List.mem_cons_of_mem _ List.mem_cons_self)
  · exact inside (_, _) List.mem_cons_self (by decide +kernel)

/-- Of two spellings of a path only the first one stays, with the id of the other. -/
theorem respelled_path_loses_its_id :
    ∃ settings, Sections.ofText? (textListing "d//a.yaml" "d/a.yaml") =
        some (sectionListing "d//a.yaml" "d/a.yaml") ∧
      ofText twoFiles [] (textListing "d//a.yaml" "d/a.yaml") = .ok settings ∧
      settings.mapping = [("d//a.yaml", "0F1E2D3C-4B5A-4968-8776-5A4B3C2D1E0F")] ∧
      idOf? settings.mapping "d//a.yaml" ≠ some "4a8d1c3e-2f6b-4c1d-9e7a-0b5c6d7e8f90" := by
  have read : Sections.ofText? (textListing "d//a.yaml" "d/a.yaml") =
      some (sectionListing "d//a.yaml" "d/a.yaml") := by decide +kernel
  -- The files are listed in their order, so sorting does nothing.
  have sorted : sortByText Prod.fst (sectionListing "d//a.yaml" "d/a.yaml").mapping =
      (sectionListing "d//a.yaml" "d/a.yaml").mapping :=
    List.mergeSort_of_pairwise (by decide +kernel)
  refine ⟨⟨some defaultPatterns, [("d//a.yaml", "0F1E2D3C-4B5A-4968-8776-5A4B3C2D1E0F")]⟩, read, ?_,
    rfl, by decide +kernel⟩
  rw [ofText, read]
  dsimp only
  rw [ofSections, sorted]
  decide +kernel

end SpecTrace.Settings
