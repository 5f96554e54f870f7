import SpecTrace.Text.Cursor

/-! Positions in the lines of a settings text. Next to line feeds and carriage returns, three
further characters end a line there. -/

namespace SpecTrace.Markup

/-- A character that ends a line. -/
def isLineBreak (c : Char) : Bool :=
  c = '\n' || c = '\r' || c = '\u0085' || c = '\u2028' || c = '\u2029'

/-- The end of the text, a space, a tab or a line break. -/
def isGap : Option Char → Bool
  | none => true
  | some c => isInlineSpace c || isLineBreak c

/-- A character that may stand in a text. -/
def isAllowed (c : Char) : Bool :=
  let n := c.toNat
  n = 0x9 || n = 0xA || n = 0xD || (0x20 ≤ n && n ≤ 0x7E) || n = 0x85 ||
    (0xA0 ≤ n && n ≤ 0xFFFD) || 0x10000 ≤ n

/-- What is left of a text, and where that stands. -/
structure Position where
  rest : List Char
  /-- Characters before the position. -/
  index : Nat
  /-- Lines before the line of the position. -/
  line : Nat
  /-- Characters between the beginning of the line and the position. -/
  column : Nat
deriving Repr

namespace Position

/-- The beginning of a text. -/
def start (text : List Char) : Position :=
  ⟨text, 0, 0, 0⟩

/-- The next character. -/
def peek (p : Position) : Option Char :=
  p.rest.head?

/-- The character behind the next one. -/
def peekSecond (p : Position) : Option Char :=
  p.rest.tail.head?

/-- A number of characters further on the line. -/
def advance (count : Nat) (p : Position) : Position :=
  { p with rest := p.rest.drop count, index := p.index + count, column := p.column + count }

/-- One character further on the line. -/
def next (p : Position) : Position :=
  p.advance 1

/-- Past the longest run of characters on the line that satisfy a condition. -/
def skipWhile (condition : Char → Bool) (p : Position) : Position :=
  p.advance (p.rest.takeWhile condition).length

/-- A line break comes next. -/
def atBreak (p : Position) : Bool :=
  p.peek.any isLineBreak

/-- The beginning of the line behind the line break that comes next. -/
def nextLine (p : Position) : Position :=
  let count := if ['\r', '\n'].isPrefixOf p.rest then 2 else 1
  ⟨p.rest.drop count, p.index + count, p.line + 1, 0⟩

/-- The line break that comes next as it counts in a scalar. -/
def breakText (p : Position) : List Char :=
  match p.peek with
  | some '\u2028' => ['\u2028']
  | some '\u2029' => ['\u2029']
  | some c => if isLineBreak c then ['\n'] else []
  | none => []

/-- A given marker of three characters stands alone at the beginning of the line. -/
def atMarker (marker : List Char) (p : Position) : Bool :=
  p.column = 0 && marker.isPrefixOf p.rest && isGap (p.rest.drop 3).head?

/-- One of the two markers of documents stands at the beginning of the line. -/
def atDocumentMarker (p : Position) : Bool :=
  p.atMarker ['-', '-', '-'] || p.atMarker ['.', '.', '.']

/-- Past blanks and a comment behind them. -/
def skipRemark (p : Position) : Position :=
  let p := p.skipWhile isInlineSpace
  if p.peek = some '#' then p.skipWhile fun c => !isLineBreak c else p

/-- The beginning of the next line, if only a remark is left on this one. -/
def endLine? (p : Position) : Option Position :=
  let p := p.skipRemark
  if p.atBreak then some p.nextLine
  else if p.rest.isEmpty then some p
  else none

end Position

end SpecTrace.Markup
