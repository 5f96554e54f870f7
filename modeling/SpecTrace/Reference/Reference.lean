import SpecTrace.Pointer
import SpecTrace.Reference.Url

/-! References from one document into another, and names made of references. -/

namespace SpecTrace

/-- Where a reference points. -/
inductive ReferenceKind where
  /-- Into the document it stands in. -/
  | local
  /-- Into a file. -/
  | relative
  /-- To another machine. -/
  | remote
deriving DecidableEq, Repr

/-- A reference in its parts. -/
structure Reference where
  /-- The reference as written. -/
  raw : String
  /-- What stands before the first number sign. -/
  document : String
  /-- The pointer behind it. -/
  pointer : Pointer
  kind : ReferenceKind
deriving DecidableEq, Repr

namespace Reference

/-- A document is remote if it is a URL with a scheme other than that of files. A scheme of a
single letter is a drive. -/
def isRemote (document : List Char) : Bool :=
  match Url.parse? document with
  | some url => 1 < url.scheme.length && url.scheme ≠ "file".toList
  | none => false

/-- Splits a reference at its first number sign. -/
def parse (raw : String) : Reference :=
  let document := raw.toList.takeWhile (· ≠ '#')
  let fragment := raw.toList.drop (document.length + 1)
  let kind :=
    if document.isEmpty then ReferenceKind.local
    else if isRemote document then .remote
    else .relative
  ⟨raw, String.ofList document, Pointer.parse (String.ofList ('#' :: fragment)), kind⟩

/-- The file that the document part of a reference names, seen from the file it stands in. -/
def resolve? (referrer document : String) : Option (List PathName) :=
  let fromReferrer : Option (List PathName) := do
    let base ← Url.ofFile? referrer
    (← Url.join? base document.toList).toFile?
  match Url.parse? document.toList with
  | some url => if url.scheme = "file".toList then url.toFile? else fromReferrer
  | none => fromReferrer

end Reference

/-- A text as part of a key: number signs go, and tildes, slashes, backslashes and dots become
hyphens. -/
def mangle (text : String) : String :=
  let replaced (c : Char) : Char :=
    if c = '~' ∨ c = '/' ∨ c = '\\' ∨ c = '.' then '-' else c
  String.ofList ((text.toList.filter (· ≠ '#')).map replaced)

/-- The number of components that two lists begin with in common. -/
def commonLength : List PathComponent → List PathComponent → Nat
  | a :: as, b :: bs => if a = b then commonLength as bs + 1 else 0
  | _, _ => 0

/-- The path to a target from a directory, with a slash between components. -/
def relativePath (directory target : String) : String :=
  let base := pathComponents directory
  let path := pathComponents target
  let common := commonLength base path
  let up := List.replicate (base.length - common) ".."
  "/".intercalate (up ++ (path.drop common).map PathComponent.text)

end SpecTrace
