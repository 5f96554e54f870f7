import SpecTrace.Document.SyntaxError
import SpecTrace.Yaml.CoreSchema
import SpecTrace.Yaml.Layout

/-! Scalars without quotes in block context, on one line or folded from several. -/

namespace SpecTrace.Yaml

/-- What ends the text of a plain scalar on a line. -/
inductive LineStop where
  | lineEnd
  | colon
  | comment
deriving DecidableEq, Repr

/-- Scans a line: the number of characters of its text without trailing blanks, and what ended
it. `read` characters are behind, the text among them ends after `text`. -/
def scanLine : (afterBlank : Bool) → (read text : Nat) → List Char → Nat × LineStop
  | _, _, text, [] => (text, .lineEnd)
  | afterBlank, read, text, c :: rest =>
    if isBreak c then (text, .lineEnd)
    else if c = ':' ∧ isBlank rest.head? then (text, .colon)
    else if c = '#' ∧ afterBlank then (text, .comment)
    else if isInlineSpace c then scanLine true (read + 1) text rest
    else scanLine false (read + 1) (read + 1) rest

/-- The plain text on the rest of the line, where it ends and what ended it. -/
def scanPlainLine (c : Cursor) : List Char × Cursor × LineStop :=
  let (length, stop) := scanLine true 0 0 c.rest
  (c.rest.take length, c.advance length, stop)

/-- The lines that continue a plain scalar, folded onto the text read so far. A line continues
it if it starts at the margin or right of it and neither a marker nor a comment does. -/
def readContinuation (margin : Nat) :
    Nat → List Char → Cursor → Reading (List Char × Cursor)
  | 0, text, c => .ok (text, c)
  | bound + 1, text, c =>
    match c.skipInlineSpace.skipBreak? with
    | none => .ok (text, c)
    | some nextLine =>
      let (line, blankLines) := nextLine.skipBlankLines
      if line.atEnd || line.atDocumentMarker || line.peek = some '#' || line.column < margin then
        .ok (text, c)
      else
        let (more, after, stop) := scanPlainLine line
        let text := text ++ foldedBreak blankLines ++ more
        match stop with
        | .colon => line.fail .mappingValueNotAllowed
        | .comment => .ok (text, after)
        | .lineEnd => readContinuation margin bound text after

/-- A plain scalar whose further lines keep to the margin. -/
def readPlain (bound margin : Nat) (c : Cursor) : Reading (Node × Cursor) := do
  let (first, after, stop) := scanPlainLine c
  let (text, after) ←
    if stop = .lineEnd then readContinuation margin bound first after else .ok (first, after)
  .ok (.scalar (resolvePlain text) ⟨c.offset, after.offset⟩, after)

end SpecTrace.Yaml
