import SpecTrace.Document.SyntaxError
import SpecTrace.Document.Node
import SpecTrace.Yaml.Layout

/-! Literal and folded block scalars. -/

namespace SpecTrace.Yaml

/-- What happens to the line breaks at the end of a block scalar. -/
inductive Chomping where
  /-- One line feed stays. -/
  | clip
  /-- None stays. -/
  | strip
  /-- All stay. -/
  | keep
deriving DecidableEq, Repr

/-- A mark that may stand in the header of a block scalar. -/
def isHeaderMark (c : Char) : Bool :=
  c = '+' || c = '-' || ('1' ≤ c && c ≤ '9')

/-- The chomping that the marks of a header ask for; the last mark wins. -/
def chompingOf (header : List Char) : Chomping :=
  match (header.filter fun c => c = '+' || c = '-').getLast? with
  | some '+' => .keep
  | some _ => .strip
  | none => .clip

/-- The indentation that the marks of a header ask for; the last digit wins. -/
def indentationOf? (header : List Char) : Option Nat :=
  (header.filter Char.isDigit).getLast?.map fun c => c.toNat - '0'.toNat

/-- Lines of a block scalar without their indentation. -/
structure BlockLines where
  /-- The lines up to the last one with content, in reverse. -/
  content : List (List Char)
  /-- The blank lines behind them. -/
  blanks : Nat
  /-- Where the last line with content ends. -/
  stop : Cursor

/-- Appends a line with content that ends at a position. -/
def BlockLines.push (lines : BlockLines) (line : List Char) (stop : Cursor) : BlockLines :=
  ⟨line :: (List.replicate lines.blanks [] ++ lines.content), 0, stop⟩

/-- Goes on behind the line break at the end of a line, if there is one. -/
def continueLines (more : BlockLines → Cursor → BlockLines) (lineEnd : Cursor)
    (lines : BlockLines) : BlockLines :=
  match lineEnd.skipBreak? with
  | some nextLine => more lines nextLine
  | none => lines

/-- Collects the lines from a line start on. The first line with content sets the indentation if
the header did not; a line left of it or of the margin, or a document marker, ends the scalar. -/
def collectLines (margin : Nat) : Nat → Option Nat → BlockLines → Cursor → BlockLines
  | 0, _, lines, _ => lines
  | bound + 1, indentation, lines, c =>
    if c.atEnd then lines
    else
      let line := c.rest.takeWhile fun ch => !isBreak ch
      let spaces := (line.takeWhile (· = ' ')).length
      let lineEnd := c.advance line.length
      let continueWith (indentation : Option Nat) (lines : BlockLines) : BlockLines :=
        continueLines (collectLines margin bound indentation) lineEnd lines
      if spaces = line.length then
        match indentation with
        | some width =>
          if width < spaces then
            continueWith indentation (lines.push (line.drop width) lineEnd)
          else continueWith indentation { lines with blanks := lines.blanks + 1 }
        | none => continueWith indentation { lines with blanks := lines.blanks + 1 }
      else
        let width := indentation.getD spaces
        if spaces < width || spaces < margin || c.atDocumentMarker then lines
        else continueWith (some width) (lines.push (line.drop width) lineEnd)

/-- A line that starts with a blank is not folded. -/
def isIndented (line : List Char) : Bool :=
  line.head?.any isInlineSpace

/-- What comes between a line and the next one when lines are folded. -/
def foldedJoint (before line : List Char) : List Char :=
  if line.isEmpty then ['\n']
  else if before.isEmpty then []
  else if isIndented line || isIndented before then ['\n']
  else [' ']

/-- Folds lines onto the one before them. -/
def foldOnto : (before : List Char) → List (List Char) → List Char
  | _, [] => []
  | before, line :: rest => foldedJoint before line ++ line ++ foldOnto line rest

/-- Folds the lines of a block scalar. -/
def foldLines : List (List Char) → List Char
  | [] => []
  | line :: rest => line ++ foldOnto line rest

/-- The value of a block scalar with the given lines. -/
def blockText (folded : Bool) (chomping : Chomping) (lines : BlockLines) : List Char :=
  let content := lines.content.reverse
  let body := if folded then foldLines content else ['\n'].intercalate content
  if content.isEmpty then []
  else
    match chomping with
    | .strip => body
    | .clip => body ++ ['\n']
    | .keep => body ++ List.replicate (lines.blanks + 1) '\n'

/-- A block scalar, from its indicator on. -/
def readBlockScalar (bound margin : Nat) (c : Cursor) : Reading (Node × Cursor) :=
  let header := c.next.rest.takeWhile isHeaderMark
  let headerEnd := c.next.advance header.length
  let spaced := headerEnd.skipInlineSpace
  let commented :=
    if spaced.peek = some '#' ∧ headerEnd.offset < spaced.offset then spaced.skipLine else spaced
  if !commented.atEnd && !commented.atBreak then commented.fail .invalidBlockHeader
  else
    -- Indentation is counted from the column of the enclosing collection.
    let indentation := (indentationOf? header).map fun width => margin - 1 + width
    let lines := collectLines margin bound indentation ⟨[], 0, headerEnd⟩ commented.skipBreak
    let text := blockText (c.peek = some '>') (chompingOf header) lines
    .ok (.scalar (.string (String.ofList text)) ⟨c.offset, lines.stop.offset⟩, lines.stop)

end SpecTrace.Yaml
