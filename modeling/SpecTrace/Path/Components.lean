import SpecTrace.Text.Order

/-! The components of a path text. -/

namespace SpecTrace

/-- A part of a path text between slashes, as far as it matters. -/
inductive PathComponent where
  | root
  | current
  | parent
  | name (text : String)
deriving DecidableEq, Repr

/-- Splits at every separator; there is always one more part than separators. -/
def splitChars (separator : Char) : List Char → List (List Char)
  | [] => [[]]
  | c :: rest =>
    if c = separator then [] :: splitChars separator rest
    else
      match splitChars separator rest with
      | [] => [[c]]
      | part :: parts => (c :: part) :: parts

/-- The parts of a text between separators. -/
def splitText (separator : Char) (text : String) : List String :=
  (splitChars separator text.toList).map String.ofList

/-- The component that a part stands for; empty parts and dots inside a path stand for none. -/
def innerComponent? (part : String) : Option PathComponent :=
  if part = "" ∨ part = "." then none
  else if part = ".." then some .parent
  else some (.name part)

/-- The components of a path text; only a dot at its very beginning counts. -/
def pathComponents (path : String) : List PathComponent :=
  match splitText '/' path with
  | [] => []
  | first :: rest =>
    let inner := rest.filterMap innerComponent?
    if path = "" then []
    else if first = "" then .root :: inner
    else if first = "." then .current :: inner
    else (innerComponent? first).toList ++ inner

/-- The text of a component. -/
def PathComponent.text : PathComponent → String
  | .root => "/"
  | .current => "."
  | .parent => ".."
  | .name text => text

/-- Components in order: the root, dots and then names by their bytes. -/
def PathComponent.compare (a b : PathComponent) : Ordering :=
  let rank : PathComponent → Nat
    | .root => 0
    | .current => 1
    | .parent => 2
    | .name _ => 3
  match a, b with
  | .name x, .name y => compareText x y
  | _, _ => Ord.compare (rank a) (rank b)

/-- Paths in the order of their components. -/
def comparePaths (a b : String) : Ordering :=
  compareLists PathComponent.compare (pathComponents a) (pathComponents b)

/-- The name at the end of a path. -/
def fileName? (path : String) : Option String :=
  match (pathComponents path).getLast? with
  | some (.name text) => some text
  | _ => none

/-- What follows the last dot of a name, unless the name starts with that dot. -/
def nameExtension? (name : String) : Option String :=
  let parts := splitText '.' name
  if parts.length < 2 ∨ parts.dropLast = [""] then none else parts.getLast?

/-- The path starts at the root. -/
def isAbsolutePath (path : String) : Bool :=
  path.toList.head? = some '/'

/-- A path taken from a directory, as text; an absolute path stays as it is. -/
def joinPath (directory path : String) : String :=
  if isAbsolutePath path then path
  else if directory = "" ∨ directory.toList.getLast? = some '/' then directory ++ path
  else directory ++ "/" ++ path

end SpecTrace
