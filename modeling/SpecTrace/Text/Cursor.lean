/-! A reading position in a text, with the byte offset and the byte column it stands at. -/

namespace SpecTrace

/-- The part of a text still to be read and where that part begins. -/
structure Cursor where
  /-- The characters not read yet. -/
  rest : List Char
  /-- UTF-8 bytes before the position. -/
  offset : Nat
  /-- UTF-8 bytes between the last line break character before the position and the position. -/
  column : Nat

/-- A line feed or a carriage return. -/
def isBreak (c : Char) : Bool :=
  c = '\n' || c = '\r'

/-- A space or a tab. -/
def isInlineSpace (c : Char) : Bool :=
  c = ' ' || c = '\t'

/-- UTF-8 bytes of a list of characters. -/
def byteLength : List Char → Nat
  | [] => 0
  | c :: rest => c.utf8Size + byteLength rest

namespace Cursor

/-- The beginning of a text. -/
def start (text : List Char) : Cursor :=
  ⟨text, 0, 0⟩

/-- The next character, if there is one. -/
def peek (c : Cursor) : Option Char :=
  c.rest.head?

/-- The character after the next one. -/
def peekSecond (c : Cursor) : Option Char :=
  c.rest.tail.head?

/-- No character is left. -/
def atEnd (c : Cursor) : Bool :=
  c.rest.isEmpty

/-- One character further; at the end nothing moves. -/
def next (c : Cursor) : Cursor :=
  match c.rest with
  | [] => c
  | ch :: rest =>
    ⟨rest, c.offset + ch.utf8Size, if isBreak ch then 0 else c.column + ch.utf8Size⟩

/-- A number of characters further. -/
def advance : Nat → Cursor → Cursor
  | 0, c => c
  | n + 1, c => advance n c.next

/-- Past the longest run of characters that satisfy a condition. -/
def skipWhile (p : Char → Bool) (c : Cursor) : Cursor :=
  c.advance (c.rest.takeWhile p).length

/-- Whether the text goes on with the given characters. -/
def startsWith (c : Cursor) (word : List Char) : Bool :=
  word.isPrefixOf c.rest

/-- Past one byte order mark, if the text goes on with one. -/
def skipByteOrderMark (c : Cursor) : Cursor :=
  if c.peek = some '\uFEFF' then c.next else c

end Cursor

/-- The longest beginning of a text that takes at most the given number of bytes. -/
def takeBytes : Nat → List Char → List Char
  | _, [] => []
  | n, c :: rest => if c.utf8Size ≤ n then c :: takeBytes (n - c.utf8Size) rest else []

/-- What is left of a text after its first bytes. -/
def dropBytes : Nat → List Char → List Char
  | _, [] => []
  | 0, cs => cs
  | n, c :: rest => dropBytes (n - c.utf8Size) rest

/-- The beginning of a text that takes exactly the given number of bytes; none if the text is
shorter or a character straddles the cut. -/
def takeExactBytes? (n : Nat) (cs : List Char) : Option (List Char) :=
  let taken := takeBytes n cs
  if byteLength taken = n then some taken else none

end SpecTrace
