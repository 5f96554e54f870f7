import SpecTrace.Path.Components
import SpecTrace.Text.Utf8

/-! Absolute paths: as written, name by name, and as places in a file tree. -/

namespace SpecTrace

/-- What stands between two slashes of a path. -/
inductive PathName where
  | text (name : String)
  /-- Bytes that are the encoding of no text. -/
  | bytes (raw : List UInt8)
deriving DecidableEq, Repr

namespace PathName

/-- The name that bytes spell. -/
def ofBytes (raw : List UInt8) : PathName :=
  match Utf8.text? raw with
  | some name => .text name
  | none => .bytes raw

/-- The name as it is shown. -/
def shown : PathName → String
  | .text name => name
  | .bytes raw => Utf8.lossyText raw

/-- A byte of value zero is among the bytes of the name. -/
def hasNul : PathName → Bool
  | .text name => name.toList.contains '\x00'
  | .bytes raw => raw.contains 0

end PathName

/-- The place of a file or directory: names from the root on, none of them empty or a dot. -/
abbrev FilePath := List String

/-- The names of a path text, taken from the names of a directory unless it is absolute. -/
def joinNames (directory : List PathName) (path : String) : List PathName :=
  let written := (splitText '/' path).map PathName.text
  if isAbsolutePath path then written.tail else directory ++ written

namespace FilePath

/-- The path as text. -/
def text (path : FilePath) : String :=
  "/" ++ "/".intercalate path

/-- The directory that holds the place; the root holds itself. -/
def directory (path : FilePath) : FilePath :=
  path.dropLast

/-- Names as they are written. -/
def names (path : FilePath) : List PathName :=
  path.map PathName.text

/-- The names of a path text, taken from a directory unless it is absolute. -/
def join (directory : FilePath) (path : String) : List PathName :=
  joinNames directory.names path

end FilePath

/-- An absolute path as it is shown. -/
def shownPath (names : List PathName) : String :=
  "/" ++ "/".intercalate (names.map PathName.shown)

end SpecTrace
