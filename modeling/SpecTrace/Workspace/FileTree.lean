import SpecTrace.Audit.Fault
import SpecTrace.Json.Value
import SpecTrace.Path.Name

/-! Files and directories, and how paths lead to them. There are no symbolic links: every file has
one place, and a path leads there by the names on the way. -/

namespace SpecTrace

/-- A file or a directory. -/
inductive FileTree where
  /-- The text of a file; none if its bytes encode no text. -/
  | file (content : Option String)
  | directory (entries : List (String × FileTree))

namespace FileTree

/-- What is at a place. -/
def get? : FileTree → FilePath → Option FileTree
  | tree, [] => some tree
  | .file _, _ :: _ => none
  | .directory entries, name :: rest => (lookupMember? entries name).bind (get? · rest)

/-- Whether the tree is a directory. -/
def isDirectory : FileTree → Bool
  | .file _ => false
  | .directory _ => true

/-- The entries of a directory; a file has none. -/
def entries : FileTree → List (String × FileTree)
  | .file _ => []
  | .directory entries => entries

/-- Puts a tree at a place; directories on the way are created. -/
def insert : FileTree → FilePath → FileTree → FileTree
  | _, [], added => added
  | tree, name :: rest, added =>
    let below := (lookupMember? tree.entries name).getD (.directory [])
    .directory (insertMember tree.entries name (below.insert rest added))

/-- Takes away what is at a place. -/
def erase : FileTree → FilePath → FileTree
  | tree, [] => tree
  | tree, [name] => .directory (tree.entries.filter fun entry => entry.1 ≠ name)
  | tree, name :: rest =>
    match lookupMember? tree.entries name with
    | some below => .directory (insertMember tree.entries name (below.erase rest))
    | none => tree

/-- Follows names from a place on. Every name has to be looked up in a directory. -/
def follow (tree : FileTree) : FilePath → List PathName → Except IoFault FilePath
  | place, [] => .ok place
  | place, name :: rest =>
    if (tree.get? place).any isDirectory then
      match name with
      | .bytes _ => .error .notFound
      | .text name =>
        if name = "" ∨ name = "." then follow tree place rest
        else if name = ".." then follow tree place.dropLast rest
        else if (tree.get? (place ++ [name])).isSome then follow tree (place ++ [name]) rest
        else .error .notFound
    else .error .notDirectory

/-- The place that an absolute path leads to. -/
def resolve (tree : FileTree) (path : List PathName) : Except IoFault FilePath :=
  if path.any PathName.hasNul then .error .nulInName else tree.follow [] path

/-- The text of the file at a place. -/
def readText (tree : FileTree) (place : FilePath) : Except IoFault String :=
  match tree.get? place with
  | some (.file (some content)) => .ok content
  | some (.file none) => .error .invalidText
  | some (.directory _) => .error .isDirectory
  | none => .error .notFound

/-- Whether a path leads to a file or directory. -/
def exists? (tree : FileTree) (path : List PathName) : Bool :=
  (tree.resolve path).toOption.isSome

end FileTree

end SpecTrace
