import SpecTrace.Workspace.FileTree

/-! Creating directories and writing files. -/

namespace SpecTrace.FileTree

/-- Whether a path leads to a directory. -/
def isDirectoryAt (tree : FileTree) (path : List PathName) : Bool :=
  match tree.resolve path with
  | .ok place => (tree.get? place).any isDirectory
  | .error _ => false

/-- The directory in which the last name of a path is looked up, and that name; none if the path
leads to a directory by its form. -/
def resolveParent (tree : FileTree) (path : List PathName) :
    Except IoFault (FilePath × Option String) := do
  let place ← tree.resolve path.dropLast
  if (tree.get? place).any isDirectory then
    match path.getLast? with
    | some (.text name) =>
      if name = "" ∨ name = "." ∨ name = ".." then .ok (place, none) else .ok (place, some name)
    | some (.bytes _) => .error .notFound
    | none => .ok (place, none)
  else .error .notDirectory

/-- Creates one directory; the one around it has to exist. -/
def makeDirectory (tree : FileTree) (path : List PathName) : Except IoFault FileTree := do
  if path.any PathName.hasNul then .error .nulInName
  else
    match ← tree.resolveParent path with
    | (_, none) => .error .alreadyExists
    | (place, some name) =>
      if (tree.get? (place ++ [name])).isSome then .error .alreadyExists
      else .ok (tree.insert (place ++ [name]) (.directory []))

/-- Creates a directory unless it exists. -/
def ensureDirectory (tree : FileTree) (path : List PathName) : Except IoFault FileTree :=
  match tree.makeDirectory path with
  | .ok made => .ok made
  | .error fault => if tree.isDirectoryAt path then .ok tree else .error fault

/-- Creates a directory and what is missing of those around it. The names come from the inside
out. -/
def ensureDirectories (tree : FileTree) : List PathName → Except IoFault FileTree
  | [] => .ok tree
  | name :: around =>
    match tree.ensureDirectory (name :: around).reverse with
    | .error .notFound => do
      let tree ← tree.ensureDirectories around
      tree.ensureDirectory (name :: around).reverse
    | result => result

/-- Writes a text over a file, which is created if need be; its directory has to exist. -/
def overwrite (tree : FileTree) (path : List PathName) (text : String) :
    Except IoFault FileTree := do
  if path.any PathName.hasNul then .error .nulInName
  else
    -- Slashes behind the last name ask for a directory.
    let named := (path.reverse.dropWhile (· == .text "")).reverse
    match ← tree.resolveParent named with
    | (_, none) => .error .isDirectory
    | (place, some name) =>
      let isDirectory := (tree.get? (place ++ [name])).any isDirectory
      if isDirectory || named.length < path.length then .error .isDirectory
      else .ok (tree.insert (place ++ [name]) (.file (some text)))

/-- Names that take part in a path; empty ones and dots do not. -/
def isStep (name : PathName) : Bool :=
  name != .text "" && name != .text "."

/-- Writes a text to a file and creates the directories on the way. -/
def write (tree : FileTree) (path : List PathName) (text : String) : Except IoFault FileTree := do
  let around := (path.filter isStep).dropLast
  let tree ← tree.ensureDirectories around.reverse
  tree.overwrite path text

mutual

/-- The files of a tree at a place, with their contents. -/
def filesAt : FilePath → FileTree → List (FilePath × Option String)
  | place, .file content => [(place, content)]
  | place, .directory entries => filesOfEntries place entries

/-- The files of the entries of a directory at a place. -/
def filesOfEntries : FilePath → List (String × FileTree) → List (FilePath × Option String)
  | _, [] => []
  | place, (name, tree) :: rest => filesAt (place ++ [name]) tree ++ filesOfEntries place rest

end

/-- The text files of a later tree that an earlier one has not, or not with the same content. -/
def writtenFiles (earlier later : FileTree) : List (FilePath × String) :=
  (filesAt [] later).filterMap fun (place, content) =>
    match content, earlier.get? place with
    | some text, some (.file (some old)) => if text = old then none else some (place, text)
    | some text, _ => some (place, text)
    | none, _ => none

end SpecTrace.FileTree
