import SpecTrace.Markup.Position
import SpecTrace.Yaml.Quoted

/-! Scalars of settings texts: in quotes, plain, and in blocks. -/

namespace SpecTrace.Markup

/-- Blanks and line breaks inside a scalar. -/
structure Gap where
  /-- Blanks before the first line break. -/
  blanks : List Char
  breaks : List Char
  /-- Where the gap ends. -/
  stop : Position

namespace Gap

/-- The gap that is still empty. -/
def start (p : Position) : Gap :=
  ⟨[], [], p⟩

/-- What a gap becomes: its blanks on one line, a space for a single line feed, and otherwise the
line breaks without the line feed that comes first. -/
def folded (gap : Gap) : List Char :=
  match gap.breaks with
  | [] => gap.blanks
  | ['\n'] => [' ']
  | '\n' :: more => more
  | breaks => breaks

/-- Extends a gap over all blanks and line breaks; on a further line no tab may stand left of the
margin. -/
def extend (margin : Nat) : Nat → Gap → Option Gap
  | 0, gap => some gap
  | bound + 1, gap =>
    let p := gap.stop
    match p.peek with
    | none => some gap
    | some c =>
      if isInlineSpace c then
        if gap.breaks.isEmpty then
          extend margin bound { gap with blanks := gap.blanks ++ [c], stop := p.next }
        else if c = '\t' ∧ p.column < margin then none
        else extend margin bound { gap with stop := p.next }
      else if isLineBreak c then
        extend margin bound { gap with breaks := gap.breaks ++ p.breakText, stop := p.nextLine }
      else some gap

end Gap

/-! ### Quotes -/

/-- The character that hexadecimal digits behind an escape letter stand for. -/
def readHex? (length : Nat) (p : Position) : Option (Char × Position) :=
  let digits := p.rest.take length
  if digits.length < length then none
  else
    ((readDigits? 16 0 digits).bind charOfCode?).map fun decoded => (decoded, p.advance length)

/-- The character behind a backslash. -/
def readEscape? (p : Position) : Option (Char × Position) := do
  let letter ← p.peek
  match Yaml.hexEscapeLength? letter with
  | some length => readHex? length p.next
  | none => (Yaml.shortEscape? letter).map fun decoded => (decoded, p.next)

/-- The rest of a scalar behind its opening quote; the characters read so far are in reverse. -/
def readQuoted (quote : Char) : Nat → List Char → Position → Option (List Char × Position)
  | 0, _, _ => none
  | bound + 1, read, p =>
    if p.atDocumentMarker then none
    else
      match p.peek with
      | none => none
      | some c =>
        if isGap c then do
          let gap ← (Gap.start p).extend 0 bound
          readQuoted quote bound (gap.folded.reverse ++ read) gap.stop
        else if c = quote then
          -- A doubled single quote stands for one.
          if quote = '\'' ∧ p.peekSecond = some '\'' then
            readQuoted quote bound ('\'' :: read) (p.advance 2)
          else some (read.reverse, p.next)
        else if c = '\\' ∧ quote = '"' then
          if p.next.atBreak then do
            -- An escaped line break is nothing, but those behind it count.
            let gap ← (Gap.mk [] ['\n'] p.next.nextLine).extend 0 bound
            readQuoted quote bound (gap.breaks.tail.reverse ++ read) gap.stop
          else do
            let (decoded, p) ← readEscape? p.next
            readQuoted quote bound (decoded :: read) p
        else readQuoted quote bound (c :: read) p.next

/-! ### Plain scalars -/

/-- A character that separates or delimits flow collections. -/
def isFlowMark (c : Char) : Bool :=
  c = ',' || c = '[' || c = ']' || c = '\x7b' || c = '\x7d'

/-- The characters of a plain scalar before the next gap or mark. A colon right in front of a mark
is refused in flow collections. -/
def splitWord? (inFlow : Bool) : List Char → Option (List Char)
  | [] => some []
  | c :: rest =>
    if isGap c then some []
    else if inFlow && c = ':' && rest.head?.any fun next => isFlowMark next || next = '?' then none
    else if (c = ':' && isGap rest.head?) || (inFlow && isFlowMark c) then some []
    else (splitWord? inFlow rest).map (c :: ·)

/-- A plain scalar that has been read. -/
structure PlainScalar where
  text : List Char
  /-- A line break follows the text. -/
  crossed : Bool
  stop : Position

/-- Extends a plain scalar by the words behind a gap that becomes the given joint. Outside of flow
collections its further lines keep to a margin. -/
def PlainScalar.extend (inFlow : Bool) (margin : Nat) :
    Nat → (joint : List Char) → PlainScalar → Option PlainScalar
  | 0, _, scalar => some scalar
  | bound + 1, joint, scalar =>
    let p := scalar.stop
    if p.atDocumentMarker || p.peek = some '#' then some scalar
    else do
      let word ← splitWord? inFlow p.rest
      if word.isEmpty then some scalar
      else
        let gap ← (Gap.start (p.advance word.length)).extend margin bound
        let longer : PlainScalar :=
          ⟨scalar.text ++ joint ++ word, !gap.breaks.isEmpty, gap.stop⟩
        if !inFlow && gap.stop.column < margin then some longer
        else PlainScalar.extend inFlow margin bound gap.folded longer

/-- The plain scalar that starts here. -/
def readPlain (inFlow : Bool) (margin : Nat) (p : Position) : Option PlainScalar :=
  PlainScalar.extend inFlow margin (p.rest.length + 1) [] ⟨[], false, p⟩

/-! ### Blocks -/

/-- What happens to the line breaks at the end of a block. -/
inductive Chomping where
  | strip
  | clip
  | keep
deriving DecidableEq, Repr

/-- The mark for the end of the block, if it comes next. -/
def readChomping? (p : Position) : Option (Chomping × Position) :=
  match p.peek with
  | some '-' => some (.strip, p.next)
  | some '+' => some (.keep, p.next)
  | _ => none

/-- The digit for the indentation of the block, if it comes next; zero is refused. -/
def readIndentation? (p : Position) : Option (Nat × Position) :=
  match p.peek with
  | some c =>
    if c = '0' then none
    else if c.isDigit then some (c.toNat - '0'.toNat, p.next)
    else some (0, p)
  | none => some (0, p)

/-- The marks behind the letter that opens a block, in either order. -/
def readBlockMarks? (p : Position) : Option (Chomping × Nat × Position) := do
  match readChomping? p with
  | some (chomping, p) =>
    let (digit, p) ← readIndentation? p
    some (chomping, digit, p)
  | none =>
    let (digit, p) ← readIndentation? p
    match readChomping? p with
    | some (chomping, p) => some (chomping, digit, p)
    | none => some (.clip, digit, p)

/-- The line breaks between two lines of a block. -/
structure BlankLines where
  breaks : List Char
  /-- The widest indentation on the way. -/
  widest : Nat
  stop : Position

/-- Skips blank lines and the indentation of the line behind them. A tab may not stand in an
indentation; a zero stands for an indentation that is not known yet. -/
def BlankLines.extend (indent : Nat) : Nat → BlankLines → Option BlankLines
  | 0, lines => some lines
  | bound + 1, lines =>
    let spaces := (lines.stop.rest.takeWhile (· = ' ')).length
    let room := indent - lines.stop.column
    let p := lines.stop.advance (if indent = 0 then spaces else min room spaces)
    if (indent = 0 ∨ p.column < indent) ∧ p.peek = some '\t' then none
    else
      let widest := max lines.widest p.column
      if p.atBreak then
        BlankLines.extend indent bound ⟨lines.breaks ++ p.breakText, widest, p.nextLine⟩
      else some ⟨lines.breaks, widest, p⟩

/-- The part of a block that has been read. -/
structure Block where
  text : List Char
  /-- The line break behind the text. -/
  lineBreak : List Char
  /-- The last line starts with a blank. -/
  indented : Bool
  lines : BlankLines

/-- Extends a block by the lines at its indentation. -/
def Block.extend (folds : Bool) (indent : Nat) : Nat → Block → Option Block
  | 0, block => some block
  | bound + 1, block =>
    let p := block.lines.stop
    if p.column ≠ indent ∨ p.rest.isEmpty then some block
    else do
      let indented := p.peek.any isInlineSpace
      let breaks := block.lines.breaks
      let joint :=
        if folds && block.lineBreak = ['\n'] && !block.indented && !indented then
          if breaks.isEmpty then [' '] else breaks
        else block.lineBreak ++ breaks
      let line := p.rest.takeWhile fun c => !isLineBreak c
      let p := p.advance line.length
      let start : BlankLines := ⟨[], 0, if p.atBreak then p.nextLine else p⟩
      let lines ← start.extend indent (bound + 1)
      Block.extend folds indent bound ⟨block.text ++ joint ++ line, p.breakText, indented, lines⟩

/-- The block behind the letter that opens it, inside a collection at an indentation. -/
def readBlock (folds : Bool) (outer : Option Nat) (p : Position) :
    Option (List Char × Position) := do
  let bound := p.rest.length + 1
  let (chomping, digit, p) ← readBlockMarks? p
  let p ← p.endLine?
  let given := if digit = 0 then 0 else outer.getD 0 + digit
  let lines ← BlankLines.extend given bound ⟨[], 0, p⟩
  let margin := (outer.map (· + 1)).getD 0
  let indent := if given = 0 then max (max lines.widest margin) 1 else given
  let block ← Block.extend folds indent bound ⟨[], [], false, lines⟩
  let ending :=
    match chomping with
    | .strip => []
    | .clip => block.lineBreak
    | .keep => block.lineBreak ++ block.lines.breaks
  some (block.text ++ ending, block.lines.stop)

end SpecTrace.Markup
