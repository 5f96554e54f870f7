import SpecTrace.Markup.Scalar
import SpecTrace.Markup.Token

/-! Splitting settings texts into tokens. A key is only known as one when its colon comes, so the
tokens that open it are put in front of tokens already read. -/

namespace SpecTrace.Markup

/-- Where a key may have started. -/
structure Candidate where
  /-- A colon has to come. -/
  required : Bool
  /-- The number of tokens in front of it. -/
  place : Nat
  start : Position

/-- The state of the splitting. -/
structure Lexer where
  position : Position
  /-- The tokens read so far, the latest first. -/
  tokens : List Token
  /-- The columns of the open block collections, the innermost first. -/
  columns : List Nat
  /-- The key that may have started in the innermost collection. -/
  candidate : Option Candidate
  /-- The same for the collections around each open flow collection, the innermost first. -/
  outer : List (Option Candidate)
  /-- A key may start here. -/
  allowsKey : Bool

namespace Lexer

/-- The state in front of a text. -/
def start (text : List Char) : Lexer :=
  ⟨Position.start text, [], [], none, [], true⟩

/-- The position is inside a flow collection. -/
def inFlow (l : Lexer) : Bool :=
  !l.outer.isEmpty

/-- Content has to stand at this column or right of it. -/
def margin (l : Lexer) : Nat :=
  (l.columns.head?.map (· + 1)).getD 0

/-- Appends a token. -/
def push (token : Token) (l : Lexer) : Lexer :=
  { l with tokens := token :: l.tokens }

/-- Puts a token behind a number of tokens. -/
def insert (place : Nat) (token : Token) (l : Lexer) : Lexer :=
  let behind := l.tokens.length - place
  { l with tokens := l.tokens.take behind ++ token :: l.tokens.drop behind }

/-- Appends a token of a number of characters, behind which a key may start or not. -/
def mark (token : Token) (length : Nat) (allowsKey : Bool) (l : Lexer) : Lexer :=
  { l.push token with position := l.position.advance length, allowsKey }

/-! ### Block collections -/

/-- Opens a block collection at a column, unless one is open there. -/
def openBlock (column place : Nat) (token : Token) (l : Lexer) : Lexer :=
  if l.inFlow || column < l.margin then l
  else { l.insert place token with columns := column :: l.columns }

/-- Ends the block collections right of a column. -/
def closeBlocks (column : Nat) (l : Lexer) : Lexer :=
  if l.inFlow then l
  else
    let closed := (l.columns.takeWhile (column < ·)).length
    { l with
      tokens := List.replicate closed .blockEnd ++ l.tokens
      columns := l.columns.drop closed }

/-- Ends all block collections. -/
def closeAll (l : Lexer) : Lexer :=
  if l.inFlow then l
  else { l with tokens := l.columns.map (fun _ => .blockEnd) ++ l.tokens, columns := [] }

/-! ### Keys -/

/-- No colon can come any more for the key that may have started. -/
def dropCandidate (l : Lexer) : Option Lexer :=
  if l.candidate.any Candidate.required then none else some { l with candidate := none }

/-- A key may start at the position. -/
def saveCandidate (l : Lexer) : Option Lexer :=
  if !l.allowsKey then some l
  else do
    let required := !l.inFlow && l.columns.head? = some l.position.column
    let l ← l.dropCandidate
    some { l with candidate := some ⟨required, l.tokens.length, l.position⟩ }

/-- A key ends on its line and has at most 1024 characters. -/
def isStale (p : Position) (candidate : Candidate) : Bool :=
  candidate.start.line < p.line || candidate.start.index + 1024 < p.index

/-- Forgets the keys that cannot end any more. -/
def dropStale (l : Lexer) : Option Lexer :=
  let stale := (l.candidate :: l.outer).filterMap fun open? => open?.filter (isStale l.position)
  let fresh (open? : Option Candidate) : Option Candidate :=
    open?.filter fun candidate => !isStale l.position candidate
  if stale.any Candidate.required then none
  else some { l with candidate := fresh l.candidate, outer := l.outer.map fresh }

/-! ### Tokens -/

/-- Past blanks, comments and line breaks. Where a key may start in a block, a tab is no blank. -/
def skipLayout : Nat → Lexer → Lexer
  | 0, l => l
  | bound + 1, l =>
    let isBlank (c : Char) : Bool := c = ' ' || (c = '\t' && (l.inFlow || !l.allowsKey))
    let p := l.position.skipWhile isBlank
    let p := if p.peek = some '#' then p.skipWhile fun c => !isLineBreak c else p
    if p.atBreak then
      skipLayout bound { l with position := p.nextLine, allowsKey := !l.inFlow || l.allowsKey }
    else { l with position := p }

/-- The opening of a flow collection. -/
def openFlow (token : Token) (l : Lexer) : Option Lexer := do
  let l ← l.saveCandidate
  some { l.mark token 1 true with candidate := none, outer := l.candidate :: l.outer }

/-- The end of a flow collection. -/
def closeFlow (token : Token) (l : Lexer) : Option Lexer := do
  let l ← l.dropCandidate
  let l := l.mark token 1 false
  match l.outer with
  | [] => some l
  | candidate :: outer => some { l with candidate, outer }

/-- The dash of a sequence entry. -/
def readBlockEntry (l : Lexer) : Option Lexer := do
  if !l.inFlow && !l.allowsKey then none
  else
    let l := l.openBlock l.position.column l.tokens.length .blockSequenceStart
    let l ← l.dropCandidate
    some (l.mark .blockEntry 1 true)

/-- The question mark in front of a key. -/
def readKey (l : Lexer) : Option Lexer := do
  if !l.inFlow && !l.allowsKey then none
  else
    let l := l.openBlock l.position.column l.tokens.length .blockMappingStart
    let l ← l.dropCandidate
    some (l.mark .key 1 (!l.inFlow))

/-- The colon in front of a value. -/
def readValue (l : Lexer) : Option Lexer :=
  match l.candidate with
  | some ⟨_, place, start⟩ =>
    let l := (l.insert place .key).openBlock start.column place .blockMappingStart
    some { l.mark .value 1 false with candidate := none }
  | none =>
    if l.inFlow then some (l.mark .value 1 false)
    else if !l.allowsKey then none
    else
      let l := l.openBlock l.position.column l.tokens.length .blockMappingStart
      some (l.mark .value 1 true)

/-- Appends the token that `read` reads from the position, which may start a key. -/
def readWord (read : Position → Option (Token × Position)) (l : Lexer) : Option Lexer := do
  let l ← l.saveCandidate
  let (token, position) ← read l.position
  some { l.push token with position, allowsKey := false }

/-- A block scalar. -/
def readBlockScalar (folds : Bool) (l : Lexer) : Option Lexer := do
  let l ← l.dropCandidate
  let (text, position) ← readBlock folds l.columns.head? l.position.next
  some { l.push (.scalar false text) with position, allowsKey := true }

/-- A plain scalar. -/
def readPlainScalar (l : Lexer) : Option Lexer := do
  let l ← l.saveCandidate
  let scalar ← readPlain l.inFlow l.margin l.position
  let l := l.push (.scalar true scalar.text)
  some { l with position := scalar.stop, allowsKey := scalar.crossed }

/-- A line of its own: a directive or a document marker. -/
def readLine (read : Position → Option (Token × Position)) (l : Lexer) : Option Lexer := do
  let l ← l.closeAll.dropCandidate
  let (token, position) ← read l.position
  some { l.push token with position, allowsKey := false }

/-- A character that cannot start a plain scalar. -/
def isIndicator (c : Char) : Bool :=
  isGap c || "-?:,[]\x7b\x7d#&*!|>'\"%@\x60".toList.contains c

/-- A plain scalar may start with the character, the given one behind it. -/
def startsPlain (inFlow : Bool) (c : Char) (next : Option Char) : Bool :=
  !isIndicator c || (c = '-' && !next.any isInlineSpace) ||
    (!inFlow && (c = '?' || c = ':') && !isGap next)

/-- Reads the token that starts with a character. -/
def readToken (l : Lexer) (c : Char) : Option Lexer :=
  let p := l.position
  let apart := isGap p.peekSecond
  if p.column = 0 ∧ c = '%' then l.readLine fun p => readDirective? p.next
  else if p.atMarker ['-', '-', '-'] then l.readLine fun p => some (.documentStart, p.advance 3)
  else if p.atMarker ['.', '.', '.'] then l.readLine fun p => some (.documentEnd, p.advance 3)
  else if c = '[' then l.openFlow .flowSequenceStart
  else if c = '\x7b' then l.openFlow .flowMappingStart
  else if c = ']' then l.closeFlow .flowSequenceEnd
  else if c = '\x7d' then l.closeFlow .flowMappingEnd
  else if c = ',' then l.dropCandidate.map (mark .flowEntry 1 true)
  else if c = '-' ∧ apart then l.readBlockEntry
  else if c = '?' ∧ (l.inFlow ∨ apart) then l.readKey
  else if c = ':' ∧ (l.inFlow ∨ apart) then l.readValue
  else if c = '*' then
    l.readWord fun p => (readName? p.next).map fun (name, p) => (.alias name, p)
  else if c = '&' then
    l.readWord fun p => (readName? p.next).map fun (name, p) => (.anchor name, p)
  else if c = '!' then
    l.readWord fun p => (readTag? l.inFlow p).map fun (name, p) => (.tag name, p)
  else if c = '|' ∧ !l.inFlow then l.readBlockScalar false
  else if c = '>' ∧ !l.inFlow then l.readBlockScalar true
  else if c = '\'' ∨ c = '"' then
    l.readWord fun p =>
      (readQuoted c (p.rest.length + 1) [] p.next).map fun (text, p) => (.scalar false text, p)
  else if startsPlain l.inFlow c p.peekSecond then l.readPlainScalar
  else none

/-- Reads tokens up to the end of the text. -/
def readTokens : Nat → Lexer → Option (List Token)
  | 0, _ => none
  | bound + 1, l => do
    let l ← (l.skipLayout (l.position.rest.length + 1)).dropStale
    let l := l.closeBlocks l.position.column
    match l.position.peek with
    | some c => readTokens bound (← l.readToken c)
    | none => (← l.closeAll.dropCandidate).tokens.reverse

end Lexer

/-- The tokens of a text; none if it cannot be split or holds a character that is not allowed. -/
def tokens? (text : List Char) : Option (List Token) :=
  -- A byte order mark in front is no part of the text.
  let text := if text.head? = some '\uFEFF' then text.tail else text
  if text.all isAllowed then (Lexer.start text).readTokens (text.length + 1) else none

end SpecTrace.Markup
