import SpecTrace.Proofs.Discovery.Coverage
import SpecTrace.Proofs.Discovery.Listing

/-! The search finds the documents that its patterns select, except below directories that are
skipped; a directory is skipped on the evidence of a name that no file has. -/

namespace SpecTrace.Discovery

/-- A pattern with an exclamation mark in front excludes what it matches. -/
def Excluding (pattern : String) : Prop :=
  pattern.toList.head? = some '!'

instance (pattern : String) : Decidable (Excluding pattern) :=
  inferInstanceAs (Decidable (_ = _))

/-- The glob of a pattern, without the exclamation mark; a slash at the end means all that is in a
directory. -/
def globOf (pattern : String) : Except GlobFault Glob :=
  let body := if Excluding pattern then pattern.toList.tail else pattern.toList
  Glob.parse (String.ofList (if body.getLast? = some '/' then body ++ ['*', '*'] else body))

/-- A pattern matches a path. -/
def PatternMatches (pattern : String) (path : FilePath) : Prop :=
  ∃ glob, globOf pattern = .ok glob ∧ glob.isMatch (relativeText path) = true

/-- A pattern excludes a path. -/
def Excluded (patterns : List String) (path : FilePath) : Prop :=
  ∃ pattern ∈ patterns, Excluding pattern ∧ PatternMatches pattern path

/-- A pattern matches a path, and none excludes it. -/
def Selected (patterns : List String) (path : FilePath) : Prop :=
  (∃ pattern ∈ patterns, ¬ Excluding pattern ∧ PatternMatches pattern path) ∧
    ¬ Excluded patterns path

/-- What a search below a directory is for: the files there that patterns select, that are not
listed as excluded, and that are documents which can be bundled. -/
structure Wanted (tree : FileTree) (root : FilePath) (patterns excluded : List String)
    (path : FilePath) : Prop where
  file : IsFile tree (root ++ path)
  selected : Selected patterns path
  unlisted : ∀ other ∈ excluded,
    (pathComponents other).filter (· ≠ .current) ≠ path.map PathComponent.name
  openApi : isOpenApi tree (root ++ path).names = true

/-- A directory above the path looks as if everything in it were excluded: a child with a name that
no file has is, and so is a child of such a child. -/
def Pruned (patterns : List String) (path : FilePath) : Prop :=
  ∃ front name back, path = front ++ name :: back ∧ front ≠ [] ∧
    Excluded patterns (front ++ [Selection.anyChild]) ∧
    Excluded patterns (front ++ [Selection.anyChild, Selection.anyChild])

/-- The pattern ends so that it matches everything in a directory, or never the name there that no
file has. -/
def Covers (pattern : String) : Prop :=
  ∀ glob, globOf pattern = .ok glob → glob.covers = true

variable {patterns : List String}

/-- A pattern adds its glob on its side. -/
theorem add_eq {pattern : String} {glob : Glob} (known : globOf pattern = .ok glob)
    (selection : Selection) :
    selection.add pattern = .ok (if Excluding pattern
      then { selection with excluded := selection.excluded ++ [glob] }
      else { selection with included := selection.included ++ [glob] }) := by
  unfold globOf at known
  unfold Selection.add
  -- An exclamation mark decides the side, and it is no part of the glob.
  by_cases negated : Excluding pattern
  · have mark : pattern.toList.head? = some '!' := negated
    simp only [mark, if_true, negated] at known ⊢
    rw [known]
    rfl
  · have mark : ¬ pattern.toList.head? = some '!' := negated
    simp only [mark, if_false, negated] at known ⊢
    rw [known]
    rfl

/-- The first pattern is added before the others. -/
theorem ofPatterns_cons {selection next : Selection} {pattern : String}
    (added : selection.add pattern = .ok next) (rest : List String) :
    Selection.ofPatterns selection (pattern :: rest) = Selection.ofPatterns next rest := by
  dsimp only [Selection.ofPatterns]
  rw [added]

/-- Valid patterns make a selection; its globs are theirs, each on the side of its pattern. -/
theorem ofPatterns_spec (valid : ∀ pattern ∈ patterns, ∃ glob, globOf pattern = .ok glob)
    (selection : Selection) :
    ∃ made, Selection.ofPatterns selection patterns = .ok made ∧
      (∀ glob, glob ∈ made.included ↔ glob ∈ selection.included ∨
        ∃ pattern ∈ patterns, ¬ Excluding pattern ∧ globOf pattern = .ok glob) ∧
      (∀ glob, glob ∈ made.excluded ↔ glob ∈ selection.excluded ∨
        ∃ pattern ∈ patterns, Excluding pattern ∧ globOf pattern = .ok glob) := by
  -- By induction on the patterns, with the selection general since every pattern adds to it.
  induction patterns generalizing selection with
  | nil => exact ⟨selection, rfl, by simp, by simp⟩
  | cons pattern rest ih =>
    obtain ⟨⟨first, known⟩, others⟩ := List.forall_mem_cons.mp valid
    have added := add_eq known selection
    -- The glob joins the side of its pattern, and the other side stays as it is.
    by_cases negated : Excluding pattern
    · rw [if_pos negated] at added
      obtain ⟨made, whole, included, excluded⟩ := ih others _
      refine ⟨made, (ofPatterns_cons added rest).trans whole, fun glob => ?_, fun glob => ?_⟩
      · refine (included glob).trans ?_
        simp [negated]
      · refine (excluded glob).trans ?_
        simp [negated, known, or_assoc, eq_comm]
    · rw [if_neg negated] at added
      obtain ⟨made, whole, included, excluded⟩ := ih others _
      refine ⟨made, (ofPatterns_cons added rest).trans whole, fun glob => ?_, fun glob => ?_⟩
      · refine (included glob).trans ?_
        simp [negated, known, or_assoc, eq_comm]
      · refine (excluded glob).trans ?_
        simp [negated]

/-- The selection of valid patterns excludes and accepts the paths that the patterns do. -/
theorem ofPatterns_iff (valid : ∀ pattern ∈ patterns, ∃ glob, globOf pattern = .ok glob) :
    ∃ selection, Selection.ofPatterns .none patterns = .ok selection ∧
      (∀ path, selection.excludes (relativeText path) = true ↔ Excluded patterns path) ∧
      (∀ path, selection.accepts (relativeText path) = true ↔ Selected patterns path) := by
  obtain ⟨selection, made, included, excluded⟩ := ofPatterns_spec valid .none
  -- Both sides are asked whether any of their globs matches.
  have side : ∀ (globs : List Glob) (on : String → Prop) (path : FilePath),
      (∀ glob, glob ∈ globs ↔ ∃ pattern ∈ patterns, on pattern ∧ globOf pattern = .ok glob) →
      ((globs.any fun glob => glob.isMatch (relativeText path)) = true ↔
        ∃ pattern ∈ patterns, on pattern ∧ PatternMatches pattern path) := by
    intro globs on path same
    rw [List.any_eq_true]
    constructor
    · rintro ⟨glob, member, matched⟩
      obtain ⟨pattern, listed, side, known⟩ := (same glob).mp member
      exact ⟨pattern, listed, side, glob, known, matched⟩
    · rintro ⟨pattern, listed, side, glob, known, matched⟩
      exact ⟨glob, (same glob).mpr ⟨pattern, listed, side, known⟩, matched⟩
  have excludes : ∀ path, selection.excludes (relativeText path) = true ↔ Excluded patterns path := by
    intro path
    exact side _ _ path fun glob => (excluded glob).trans (or_iff_right List.not_mem_nil)
  refine ⟨selection, made, excludes, fun path => ?_⟩
  have includes := side _ _ path fun glob => (included glob).trans (or_iff_right List.not_mem_nil)
  rw [Selection.accepts, Bool.and_eq_true, includes, Bool.not_eq_true', ← Bool.not_eq_true, excludes,
    Selected]

/-- A directory is skipped if a child and a child of a child with a name that no file has are
excluded. -/
theorem excludesAllIn_iff {selection : Selection} {directory : FilePath} (below : directory ≠ []) :
    selection.excludesAllIn (relativeText directory) = true ↔
      selection.excludes (relativeText (directory ++ [Selection.anyChild])) = true ∧
        selection.excludes
          (relativeText (directory ++ [Selection.anyChild, Selection.anyChild])) = true := by
  -- What is tested are the paths of the child and of its child, so these have to be spelled out.
  have child : relativeText (directory ++ [Selection.anyChild]) =
      relativeText directory ++ "/" ++ Selection.anyChild :=
    relativeText_append below (by simp)
  have grandchild : relativeText (directory ++ [Selection.anyChild, Selection.anyChild]) =
      relativeText directory ++ "/" ++ Selection.anyChild ++ "/" ++ Selection.anyChild := by
    have further : directory ++ [Selection.anyChild] ≠ [] := by simp
    have deeper := relativeText_append further (List.cons_ne_nil Selection.anyChild [])
    rwa [List.append_assoc, child] at deeper
  rw [Selection.excludesAllIn, Bool.and_eq_true, child, grandchild]

/-- Nothing that is selected is pruned if all patterns that exclude cover what is in a directory. -/
theorem not_pruned_of_covers (covers : ∀ pattern ∈ patterns, Excluding pattern → Covers pattern)
    {path : FilePath} (selected : Selected patterns path) : ¬ Pruned patterns path := by
  rintro ⟨front, name, back, rfl, above, ⟨pattern, listed, negated, glob, known, matched⟩, _⟩
  -- The pattern that excludes the child with no name of a file excludes the path as well.
  refine selected.2 ⟨pattern, listed, negated, glob, known, ?_⟩
  exact Glob.isMatch_of_covers (covers pattern listed negated glob known) above (by simp) matched

/-- A search below a directory with valid patterns answers, and it lists, in strict order of their
names, exactly the wanted files that are below no skipped directory. -/
theorem find_spec {tree : FileTree} (proper : tree.Proper) {here root : FilePath}
    {directory : String} {entries : List (String × FileTree)}
    (resolved : tree.resolve (here.join directory) = .ok root)
    (there : tree.get? root = some (.directory entries))
    (valid : ∀ pattern ∈ patterns, ∃ glob, globOf pattern = .ok glob) (excluded : List String) :
    ∃ found, find tree here directory patterns excluded = .ok found ∧ found.Pairwise Earlier ∧
      ∀ path, path ∈ found ↔ Wanted tree root patterns excluded path ∧ ¬ Pruned patterns path := by
  -- What the search does is written down first, and membership in it is taken apart after that.
  obtain ⟨selection, made, excludes, accepts⟩ := ofPatterns_iff valid
  have inner := (proper.get? there).1
  let kept := (filesBelow selection entries).filter fun path =>
    selection.accepts (relativeText path) && !isListed excluded path &&
      isOpenApi tree (root ++ path).names
  have answered : find tree here directory patterns excluded = .ok kept := by
    unfold find
    rw [resolved]
    simp only [there, made]
    rfl
  have skipped : ∀ front, front ≠ [] →
      (selection.excludesAllIn (relativeText front) = true ↔
        Excluded patterns (front ++ [Selection.anyChild]) ∧
          Excluded patterns (front ++ [Selection.anyChild, Selection.anyChild])) := by
    intro front above
    rw [excludesAllIn_iff above, excludes, excludes]
  -- What the walk sees from the directory is what stands at the whole path.
  have file : ∀ path, IsFile (.directory entries) path ↔ IsFile tree (root ++ path) := by
    intro path
    rw [IsFile, IsFile, FileTree.get?_append, there, Option.bind_some]
  refine ⟨kept, answered, (filesBelow_pairwise inner).filter _, fun path => ?_⟩
  have unlisted : isListed excluded path = false ↔ ∀ other ∈ excluded,
      (pathComponents other).filter (· ≠ .current) ≠ path.map PathComponent.name := by
    simp [isListed]
  rw [List.mem_filter, mem_filesBelow inner, Bool.and_eq_true, Bool.and_eq_true, accepts,
    Bool.not_eq_true', unlisted, file]
  constructor
  · rintro ⟨⟨inside, way⟩, ⟨selected, other⟩, openApi⟩
    refine ⟨⟨inside, selected, other, openApi⟩, ?_⟩
    -- The walk came to the file, so no directory on the way is skipped.
    rintro ⟨front, name, back, split, above, both⟩
    have closed := (skipped front above).mpr both
    rw [way front name back split above] at closed
    cases closed
  · -- Where nothing is skipped, the walk comes to every file.
    rintro ⟨wanted, unpruned⟩
    refine ⟨⟨wanted.file, fun front name back split above => ?_⟩,
      ⟨wanted.selected, wanted.unlisted⟩, wanted.openApi⟩
    rw [← Bool.not_eq_true]
    intro closed
    exact unpruned ⟨front, name, back, split, above, (skipped front above).mp closed⟩

/-- A search below a directory with valid patterns answers, and it lists, in strict order of their
names, exactly the wanted files that are below no skipped directory. No wanted file is below one if
all patterns that exclude cover what is in a directory, as those do that end with a slash, with two
stars behind one, or with a character. -/
theorem search_finds {tree : FileTree} (proper : tree.Proper) {here root : FilePath}
    {directory : String} {entries : List (String × FileTree)}
    (resolved : tree.resolve (here.join directory) = .ok root)
    (there : tree.get? root = some (.directory entries)) {patterns : List String}
    (valid : ∀ pattern ∈ patterns, ∃ glob, globOf pattern = .ok glob) (excluded : List String) :
    ∃ found, find tree here directory patterns excluded = .ok found ∧ found.Pairwise Earlier ∧
      (∀ path, path ∈ found ↔
        Wanted tree root patterns excluded path ∧ ¬ Pruned patterns path) ∧
      ((∀ pattern ∈ patterns, Excluding pattern → Covers pattern) →
        ∀ path, path ∈ found ↔ Wanted tree root patterns excluded path) := by
  -- What is found is wanted and not pruned, and patterns that cover prune nothing that is wanted.
  obtain ⟨found, answered, ordered, exactly⟩ := find_spec proper resolved there valid excluded
  refine ⟨found, answered, ordered, exactly, fun covers path => ?_⟩
  rw [exactly path]
  apply and_iff_left_of_imp
  intro wanted
  exact not_pruned_of_covers covers wanted.selected

/-! ### A search that is exact, and one that loses a file -/

/-- A file whose name ends in `.yaml` is read as YAML. -/
theorem ofPath_yaml {path name : String} (named : fileName? path = some name)
    (ends : nameExtension? name = some "yaml") : Format.ofPath path = .yaml := by
  -- The ending is lower case already, which is a matter of its characters.
  have lower : "yaml".map Char.toLower = "yaml" := by
    apply String.toList_injective
    rw [String.toList_map]
    decide
  rw [Format.ofPath, named, Option.bind_some, ends, Option.map_some, lower]
  rfl

/-- A document that declares its version and nothing else. -/
def declaration : FileTree :=
  .file (some "openapi: 3.0.0\n")

/-- A YAML file with such a document can be bundled. -/
theorem isOpenApi_declaration {tree : FileTree} {place : FilePath} {name : String}
    (resolved : tree.resolve place.names = .ok place) (there : tree.get? place = some declaration)
    (named : fileName? place.text = some name) (ends : nameExtension? name = some "yaml") :
    isOpenApi tree place.names = true := by
  -- The document is short enough for its tree to be written down and read by evaluation.
  let root : Node :=
    .mapping [⟨"openapi", ⟨0, 7⟩, .scalar (.string "3.0.0") ⟨9, 14⟩⟩] ⟨0, 14⟩
  have read : readDocument (Format.ofPath place.text) "openapi: 3.0.0\n" = .ok root := by
    rw [ofPath_yaml named ends]
    rfl
  have version : ApiVersion.detect? root.toJson = some .v3 := by decide
  simp [isOpenApi, resolved, FileTree.readText, there, declaration, read, version, Except.toOption]

/-- A pattern covers what is in a directory if its glob is found to. -/
theorem Covers.of {pattern : String} {glob : Glob} (known : globOf pattern = .ok glob)
    (covers : glob.covers = true) : Covers pattern := by
  intro other read
  rw [known] at read
  cases read
  exact covers

/-- A pattern matches the paths that its glob does. -/
theorem patternMatches_iff {pattern : String} {glob : Glob} (known : globOf pattern = .ok glob)
    {path : FilePath} : PatternMatches pattern path ↔ glob.isMatch (relativeText path) = true := by
  -- The glob of a pattern is unique, since reading it is a function.
  constructor
  · rintro ⟨other, read, matched⟩
    rw [known] at read
    cases read
    exact matched
  · intro matched
    exact ⟨glob, known, matched⟩

/-- The pattern for files with the extension of YAML, at any depth. -/
theorem globOf_yaml :
    globOf "**/*.yaml" = .ok ⟨.leadingDirs :: .anyName :: ".yaml".toList.map .literal⟩ :=
  rfl

/-- A document in a directory and one beside it. -/
def project : FileTree :=
  .directory [("a.yaml", declaration), ("d", .directory [("b.yaml", declaration)])]

/-- The patterns for all YAML files but those in one directory. -/
def sparing : List String :=
  ["**/*.yaml", "!d/"]

/-- Of two documents, the one in an excluded directory is left out, and the other one is found. -/
theorem document_is_found :
    ∃ found, find project [] "" sparing [] = .ok found ∧ ["a.yaml"] ∈ found ∧ ["d", "b.yaml"] ∉ found := by
  -- One pattern excludes here, and it ends with a slash, so it covers what it excludes and nothing
  -- is pruned that is not excluded.
  have proper : project.Proper := by
    refine .add (by decide) ?_ .file (.add (by decide) ?_ (.add (by decide) ?_ .file .empty) .empty)
    all_goals exact ⟨⟨by decide, by decide, by decide, by decide⟩, by decide⟩
  have resolved : project.resolve (FilePath.join [] "") = .ok [] := rfl
  have there : project.get? [] = some (.directory project.entries) := rfl
  have directories : globOf "!d/" = .ok ⟨[.literal 'd', .trailingDirs]⟩ := rfl
  have valid : ∀ pattern ∈ sparing, ∃ glob, globOf pattern = .ok glob := by
    simpa [sparing] using ⟨⟨_, globOf_yaml⟩, ⟨_, directories⟩⟩
  have covers : ∀ pattern ∈ sparing, Excluding pattern → Covers pattern := by
    have second : Covers "!d/" := .of directories (by decide)
    have first : ¬ Excluding "**/*.yaml" := by decide
    simp [sparing, first, second]
  have excluded : ∀ path, Excluded sparing path ↔ PatternMatches "!d/" path := by
    have first : ¬ Excluding "**/*.yaml" := by decide
    have second : Excluding "!d/" := by decide
    simp [Excluded, sparing, first, second]
  obtain ⟨found, answered, _, _, exactly⟩ := search_finds proper resolved there valid []
  refine ⟨found, answered, (exactly covers _).mpr ⟨⟨_, rfl⟩, ⟨?_, ?_⟩, by simp, ?_⟩, fun member => ?_⟩
  · exact ⟨"**/*.yaml", by decide, by decide, (patternMatches_iff globOf_yaml).mpr (by decide +kernel)⟩
  · intro matched
    exact absurd ((patternMatches_iff directories).mp ((excluded _).mp matched)) (by decide +kernel)
  · have named : fileName? (FilePath.text ["a.yaml"]) = some "a.yaml" := rfl
    exact isOpenApi_declaration rfl rfl named rfl
  · refine ((exactly covers _).mp member).selected.2 ((excluded _).mpr ?_)
    exact (patternMatches_iff directories).mpr (by decide +kernel)

/-- A document three directories below the one that is searched. -/
def deep : FileTree :=
  .directory [("d", .directory [("a", .directory [("b", .directory [("c.yaml", declaration)])])])]

/-- Patterns for all YAML files but those in a directory and in the directories there. -/
def shallow : List String :=
  ["**/*.yaml", "!d/*", "!d/*/*"]

/-- A file that no pattern excludes is lost: what is in its directory is excluded one level and two
levels deep, but not below. -/
theorem deep_file_is_lost :
    ∃ found, find deep [] "" shallow [] = .ok found ∧ ["d", "a", "b", "c.yaml"] ∉ found ∧
      Wanted deep [] shallow [] ["d", "a", "b", "c.yaml"] := by
  -- The directory is pruned since both probes are excluded, though the file three levels below is
  -- not.
  have proper : deep.Proper := by
    refine .add (by decide) ?_ (.add (by decide) ?_ (.add (by decide) ?_ ?_ .empty) .empty) .empty
    rotate_right
    · exact .add (by decide) ⟨⟨by decide, by decide, by decide, by decide⟩, by decide⟩ .file .empty
    all_goals exact ⟨⟨by decide, by decide, by decide, by decide⟩, by decide⟩
  have resolved : deep.resolve (FilePath.join [] "") = .ok [] := rfl
  have there : deep.get? [] = some (.directory deep.entries) := rfl
  have children : globOf "!d/*" = .ok ⟨[.literal 'd', .literal '/', .anyName]⟩ := rfl
  have grandchildren : globOf "!d/*/*" =
      .ok ⟨[.literal 'd', .literal '/', .anyName, .literal '/', .anyName]⟩ := rfl
  have valid : ∀ pattern ∈ shallow, ∃ glob, globOf pattern = .ok glob := by
    simpa [shallow] using ⟨⟨_, globOf_yaml⟩, ⟨_, children⟩, ⟨_, grandchildren⟩⟩
  have excluded : ∀ path, Excluded shallow path ↔
      PatternMatches "!d/*" path ∨ PatternMatches "!d/*/*" path := by
    have first : ¬ Excluding "**/*.yaml" := by decide
    have others : Excluding "!d/*" ∧ Excluding "!d/*/*" := by decide
    simp [Excluded, shallow, first, others]
  obtain ⟨found, answered, _, exactly⟩ := find_spec proper resolved there valid []
  refine ⟨found, answered, fun member => ?_, ⟨_, rfl⟩, ⟨?_, ?_⟩, by simp, ?_⟩
  · refine ((exactly _).mp member).2 ⟨["d"], "a", ["b", "c.yaml"], rfl, by decide, ?_, ?_⟩
    · exact (excluded _).mpr (.inl ((patternMatches_iff children).mpr (by decide +kernel)))
    · exact (excluded _).mpr (.inr ((patternMatches_iff grandchildren).mpr (by decide +kernel)))
  · exact ⟨"**/*.yaml", by decide, by decide, (patternMatches_iff globOf_yaml).mpr (by decide +kernel)⟩
  · intro matched
    rcases (excluded _).mp matched with one | two
    · exact absurd ((patternMatches_iff children).mp one) (by decide +kernel)
    · exact absurd ((patternMatches_iff grandchildren).mp two) (by decide +kernel)
  · have named : fileName? (FilePath.text ["d", "a", "b", "c.yaml"]) = some "c.yaml" := rfl
    exact isOpenApi_declaration rfl rfl named rfl

end SpecTrace.Discovery
