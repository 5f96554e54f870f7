import SpecTrace.Path.Components
import SpecTrace.Text.Order
import SpecTrace.Text.Percent

/-! Pointers into documents, in plain form and as fragments of references. -/

namespace SpecTrace

/-- The keys and indices from the root of a document to a node. -/
abbrev Pointer := List String

/-- Replaces a tilde with the given digit behind it by a character, from left to right. -/
def replaceMark (digit replacement : Char) : List Char → List Char
  | [] => []
  | [c] => [c]
  | c :: d :: rest =>
    if c = '~' ∧ d = digit then replacement :: replaceMark digit replacement rest
    else c :: replaceMark digit replacement (d :: rest)

/-- Reverses the escaping of a segment: first slashes, then tildes. -/
def unescapeChars (cs : List Char) : List Char :=
  replaceMark '0' '~' (replaceMark '1' '/' cs)

/-- A character of a segment as it is written between slashes. -/
def escapeSegmentChar (c : Char) : List Char :=
  if c = '~' then ['~', '0'] else if c = '/' then ['~', '1'] else [c]

/-- The characters of a segment as they are written between slashes. -/
def escapeChars (cs : List Char) : List Char :=
  cs.flatMap escapeSegmentChar

namespace Pointer

/-- A segment as it is written between slashes. -/
def escape (segment : String) : String :=
  String.ofList (escapeChars segment.toList)

/-- The segment that is written in plain form. -/
def unescape (segment : String) : String :=
  String.ofList (unescapeChars segment.toList)

/-- The segment that is written in a fragment, where bytes may be percent-encoded. -/
def decodeSegment (segment : String) : String :=
  String.ofList
    (unescapeChars ((Utf8.decode (Percent.decode segment.toList)).map fun c => c.getD '\uFFFD'))

/-- The segments of a text behind one optional slash. -/
def parseWith (segment : String → String) (body : List Char) : Pointer :=
  match body with
  | [] => []
  | '/' :: rest => (splitChars '/' rest).map fun part => segment (String.ofList part)
  | _ => (splitChars '/' body).map fun part => segment (String.ofList part)

/-- The pointer that a text spells: a fragment if it starts with a number sign, otherwise in
plain form. -/
def parse (raw : String) : Pointer :=
  match raw.toList with
  | '#' :: body => parseWith decodeSegment body
  | body => parseWith unescape body

/-- The plain form. -/
def text (p : Pointer) : String :=
  String.ofList (p.flatMap fun segment => '/' :: escapeChars segment.toList)

/-- The form that references use. -/
def fragment (p : Pointer) : String :=
  "#" ++ text p

/-- The segment that has the given number of segments behind it. -/
def fromEnd? (p : Pointer) (n : Nat) : Option String :=
  p.reverse[n]?

end Pointer

/-- Pointers in the order of their segments. -/
def Pointer.compare (p q : Pointer) : Ordering :=
  compareLists compareText p q

end SpecTrace
