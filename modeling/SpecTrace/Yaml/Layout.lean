import SpecTrace.Text.Cursor

/-! Blanks, comments, line breaks and document markers between the nodes of a YAML text. -/

namespace SpecTrace

/-- The end of the text, a space, a tab or a line break. -/
def isBlank : Option Char → Bool
  | none => true
  | some c => isInlineSpace c || isBreak c

namespace Cursor

/-- The next character is a line break. -/
def atBreak (c : Cursor) : Bool :=
  c.peek.any isBreak

/-- The next character is one of the two quotes. -/
def atQuote (c : Cursor) : Bool :=
  c.peek = some '"' || c.peek = some '\''

/-- The next character is the given indicator, with a blank behind it. -/
def atIndicator (c : Cursor) (indicator : Char) : Bool :=
  c.peek = some indicator && isBlank c.peekSecond

/-- Past spaces and tabs. -/
def skipInlineSpace (c : Cursor) : Cursor :=
  c.skipWhile isInlineSpace

/-- To the end of the line. -/
def skipLine (c : Cursor) : Cursor :=
  c.skipWhile fun ch => !isBreak ch

/-- Past a line break, if one comes next. -/
def skipBreak? (c : Cursor) : Option Cursor :=
  if c.startsWith ['\r', '\n'] then some (c.advance 2)
  else if c.atBreak then some c.next
  else none

/-- Past a line break, if one comes next. -/
def skipBreak (c : Cursor) : Cursor :=
  c.skipBreak?.getD c

/-- The text starts with the marker, which a blank follows. -/
def startsWithMarker (c : Cursor) (marker : List Char) : Bool :=
  c.startsWith marker && isBlank (c.rest.drop 3).head?

/-- The marker stands here at the beginning of a line. -/
def atMarker (c : Cursor) (marker : List Char) : Bool :=
  c.column = 0 && c.startsWithMarker marker

end Cursor

/-- The marker that opens a document. -/
def openingMarker : List Char := ['-', '-', '-']

/-- The marker that closes a document. -/
def closingMarker : List Char := ['.', '.', '.']

/-- One of the two markers stands here at the beginning of a line. -/
def Cursor.atDocumentMarker (c : Cursor) : Bool :=
  c.atMarker openingMarker || c.atMarker closingMarker

/-- The number of characters in spaces, tabs, comments and line breaks before the next content. -/
def layoutLength : (inComment : Bool) → List Char → Nat
  | _, [] => 0
  | inComment, c :: rest =>
    if isBreak c then layoutLength false rest + 1
    else if inComment || isInlineSpace c then layoutLength inComment rest + 1
    else if c = '#' then layoutLength true rest + 1
    else 0

/-- Past spaces, comments and line breaks, and whether a line break was crossed. -/
def Cursor.skipLayout (c : Cursor) : Cursor × Bool :=
  let length := layoutLength false c.rest
  (c.advance length, (c.rest.take length).any isBreak)

/-- Past layout and the directive lines in front of a document. -/
def Cursor.skipDirectives : Nat → Cursor → Cursor
  | 0, c => c
  | bound + 1, c =>
    let c := c.skipLayout.1
    if c.column = 0 ∧ c.peek = some '%' then skipDirectives bound c.skipLine else c

/-- The characters and the line breaks in a run of blank lines, and the blanks that start the
line behind it. -/
def blankRun : List Char → Nat × Nat
  | '\r' :: '\n' :: rest =>
    let (chars, breaks) := blankRun rest
    (chars + 2, breaks + 1)
  | [] => (0, 0)
  | c :: rest =>
    if isBreak c then
      let (chars, breaks) := blankRun rest
      (chars + 1, breaks + 1)
    else if isInlineSpace c then
      let (chars, breaks) := blankRun rest
      (chars + 1, breaks)
    else (0, 0)

/-- Past blank lines and leading blanks, with the number of line breaks passed. -/
def Cursor.skipBlankLines (c : Cursor) : Cursor × Nat :=
  let (chars, breaks) := blankRun c.rest
  (c.advance chars, breaks)

/-- What a folded line break becomes: a space, or the line feeds of the blank lines behind it. -/
def foldedBreak (blankLines : Nat) : List Char :=
  if blankLines = 0 then [' '] else List.replicate blankLines '\n'

end SpecTrace
