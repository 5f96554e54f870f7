import SpecTrace.Settings.Sections
import SpecTrace.Workspace.FileTree

/-! Settings of a directory: which documents to search for, and which have an id already. -/

namespace SpecTrace

/-- The settings of a directory. -/
structure Settings where
  /-- The patterns of the search; none if it is turned off. -/
  patterns : Option (List String)
  /-- Files with their ids, in the order of their paths. -/
  mapping : List (String × String)
deriving DecidableEq, Repr

/-- Why a settings text is refused. -/
inductive SettingsFault where
  | malformed
  | missingFile (file : String)
  | invalidId (file : String)
  | sharedId (first second id : String)
deriving DecidableEq, Repr

/-- The wording of a fault. -/
def SettingsFault.message : SettingsFault → String
  | .malformed => "invalid yaml"
  | .missingFile file =>
    "The file \"" ++ file ++ "\" listed in the 'mapping' section does not exist"
  | .invalidId file =>
    "The API id for \"" ++ file ++ "\" listed in the 'mapping' section is not a valid UUID"
  | .sharedId first second id =>
    "\"" ++ first ++ "\" and \"" ++ second ++ "\" are mapped to the same API id " ++ id

namespace Settings

/-- The name of the file that holds the settings of a directory. -/
def fileName : String := "apiaudit.yaml"

/-- The patterns of a search that is not set up otherwise. -/
def defaultPatterns : List String :=
  ["**/*.json", "**/*.yaml", "**/*.yml", "!node_modules/", "!tsconfig.json"]

/-- The settings of a directory without any. -/
def default : Settings := ⟨some defaultPatterns, []⟩

/-- A given number of hexadecimal digits. -/
def isHexGroup (count : Nat) (group : List Char) : Bool :=
  group.length = count && group.all fun c => (digitValue? 16 c).isSome

/-- A UUID of one of the versions one to five. -/
def isId (text : String) : Bool :=
  match splitChars '-' text.toList with
  | [time, middle, version, variant, node] =>
    isHexGroup 8 time && isHexGroup 4 middle && isHexGroup 4 version && isHexGroup 4 variant &&
      isHexGroup 12 node && version.head?.any ['1', '2', '3', '4', '5'].contains &&
      variant.head?.any ['8', '9', 'a', 'b', 'A', 'B'].contains
  | _ => false

/-- The id without regard to case. -/
def foldId (id : String) : String :=
  id.map Char.toLower

/-- Checks files and ids one by one; `seen` has the folded ids of the files before. -/
def checkMapping (tree : FileTree) (root : List PathName) :
    (seen : List (String × String)) → List (String × String) → Except SettingsFault Unit
  | _, [] => .ok ()
  | seen, (file, id) :: rest =>
    if !tree.exists? (joinNames root file) then .error (.missingFile file)
    else if !isId id then .error (.invalidId file)
    else
      match lookupMember? seen (foldId id) with
      | some first => .error (.sharedId first file id)
      | none => checkMapping tree root ((foldId id, file) :: seen) rest

/-- Stores an id in the order of paths; of two spellings of a path the first stays. -/
def insertMapped : List (String × String) → String → String → List (String × String)
  | [], file, id => [(file, id)]
  | (other, old) :: rest, file, id =>
    match comparePaths file other with
    | .lt => (file, id) :: (other, old) :: rest
    | .eq => (other, id) :: rest
    | .gt => (other, old) :: insertMapped rest file id

/-- The settings that sections make for a root directory. -/
def ofSections (tree : FileTree) (root : List PathName) (sections : Sections) :
    Except SettingsFault Settings := do
  let patterns :=
    match sections.search with
    | some (.enabled false) => none
    | some (.patterns (some listed)) => some listed
    | _ => some defaultPatterns
  let pairs := sortByText Prod.fst sections.mapping
  checkMapping tree root [] pairs
  .ok ⟨patterns, pairs.foldl (fun mapping pair => insertMapped mapping pair.1 pair.2) []⟩

/-- Reads the settings of a root directory from a text. -/
def ofText (tree : FileTree) (root : List PathName) (text : String) :
    Except SettingsFault Settings :=
  match Sections.ofText? text with
  | some sections => ofSections tree root sections
  | none => .error .malformed

/-- The settings of a directory, taken from its settings file if there is one. The path of the
directory is taken from `here`. -/
def load (tree : FileTree) (here : FilePath) (directory : String) :
    Except CommandFault Settings :=
  let root := here.join directory
  let file := joinNames root fileName
  if !tree.exists? file then .ok default
  else do
    let place ← (tree.resolve file).mapError CommandFault.io
    let text ← (tree.readText place).mapError CommandFault.io
    (ofText tree root text).mapError fun fault =>
      .config (joinPath directory fileName ++ ": " ++ fault.message)

end Settings

end SpecTrace
