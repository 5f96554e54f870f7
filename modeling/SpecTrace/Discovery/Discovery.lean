import SpecTrace.Discovery.Matching
import SpecTrace.Text.DebugText
import SpecTrace.Workspace.Session

/-! The search for documents below a directory. -/

namespace SpecTrace

/-- The patterns that select files. -/
structure Selection where
  included : List Glob
  excluded : List Glob

namespace Selection

/-- Nothing is selected. -/
def none : Selection := ⟨[], []⟩

/-- Adds a pattern: an exclamation mark in front excludes, a slash behind means all that is in a
directory. -/
def add (selection : Selection) (pattern : String) : Except GlobFault Selection := do
  let text := pattern.toList
  let negated := text.head? = some '!'
  let body := if negated then text.tail else text
  let body := if body.getLast? = some '/' then body ++ ['*', '*'] else body
  let glob ← Glob.parse (String.ofList body)
  if negated then .ok { selection with excluded := selection.excluded ++ [glob] }
  else .ok { selection with included := selection.included ++ [glob] }

/-- The selection that patterns make. -/
def ofPatterns : Selection → List String → Except CommandFault Selection
  | selection, [] => .ok selection
  | selection, pattern :: rest =>
    match selection.add pattern with
    | .ok selection => ofPatterns selection rest
    | .error _ => .error (.config ("Invalid pattern '" ++ pattern ++ "'"))

/-- One of the excluding patterns matches a path. -/
def excludes (selection : Selection) (path : String) : Bool :=
  selection.excluded.any fun glob => glob.isMatch path

/-- A path matches and is not excluded. -/
def accepts (selection : Selection) (path : String) : Bool :=
  (selection.included.any fun glob => glob.isMatch path) && !selection.excludes path

/-- A name that no file has. -/
def anyChild : String := "\x00"

/-- Whatever is in a directory is excluded: any child, and any child of a child. -/
def excludesAllIn (selection : Selection) (path : String) : Bool :=
  let child := path ++ "/" ++ anyChild
  selection.excludes child && selection.excludes (child ++ "/" ++ anyChild)

end Selection

/-- A path below a directory. -/
def relativeText (path : FilePath) : String :=
  "/".intercalate path

namespace Discovery

mutual

/-- The files in a tree that stands at a path, without directories in which all is excluded. -/
def filesIn (selection : Selection) : FilePath → FileTree → List FilePath
  | path, .file _ => [path]
  | path, .directory entries =>
    if selection.excludesAllIn (relativeText path) then []
    else (sortByText Prod.fst (filesInEntries selection path entries)).flatMap Prod.snd

/-- The names in a directory at a path, each with the files that are found there. -/
def filesInEntries (selection : Selection) :
    FilePath → List (String × FileTree) → List (String × List FilePath)
  | _, [] => []
  | path, (name, tree) :: rest =>
    (name, filesIn selection (path ++ [name]) tree) :: filesInEntries selection path rest

end

/-- The files in a directory, in the order of their paths. -/
def filesBelow (selection : Selection) (entries : List (String × FileTree)) : List FilePath :=
  (sortByText Prod.fst (filesInEntries selection [] entries)).flatMap Prod.snd

/-- The path is listed; dots in a listed path do not matter. -/
def isListed (listed : List String) (path : FilePath) : Bool :=
  listed.any fun other =>
    (pathComponents other).filter (· ≠ .current) = path.map PathComponent.name

/-- The documents below a directory that patterns select, without excluded paths. The path of the
directory is taken from `here`. -/
def find (tree : FileTree) (here : FilePath) (directory : String)
    (patterns excluded : List String) : Except CommandFault (List FilePath) :=
  let missing : CommandFault := .general ("Root directory not found: " ++ debugText directory)
  match tree.resolve (here.join directory) with
  | .error _ => .error missing
  | .ok root =>
    match tree.get? root with
    | some (.directory entries) => do
      let selection ← Selection.ofPatterns .none patterns
      .ok ((filesBelow selection entries).filter fun path =>
        selection.accepts (relativeText path) && !isListed excluded path &&
          isOpenApi tree (root ++ path).names)
    | _ => .error missing

end Discovery

end SpecTrace
