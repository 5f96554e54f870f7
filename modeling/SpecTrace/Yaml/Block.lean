import SpecTrace.Yaml.BlockScalar
import SpecTrace.Yaml.Flow
import SpecTrace.Yaml.PlainScalar

/-! Block collections, and YAML documents as a whole. -/

namespace SpecTrace.Yaml

/-- Collections may be nested this deep. -/
def maxDepth : Nat := 512

/-- Where a block node stands. -/
inductive Place where
  /-- It is the document. -/
  | document
  /-- It follows the colon of a mapping entry. -/
  | value
  /-- It follows the dash of a sequence entry. -/
  | item
deriving DecidableEq, Repr

/-- Only blanks and a comment behind a blank may stand before the end of the line. -/
def expectLineEnd (c : Cursor) : Reading Unit :=
  let spaced := c.skipInlineSpace
  match spaced.peek with
  | none => .ok ()
  | some ch =>
    if isBreak ch || (ch = '#' && c.offset < spaced.offset) then .ok ()
    else spaced.fail .contentAfterValue

/-- Whether the scalar at the position is the key of a mapping entry. -/
def atMappingKey (bound : Nat) (c : Cursor) : Reading Bool :=
  if c.atQuote then do
    let (_, after) ← readQuoted bound c
    .ok (after.skipInlineSpace.atIndicator ':')
  else
    let (_, _, stop) := scanPlainLine c
    .ok (stop = .colon)

/-- The text of a key and where it was written. -/
def readKeyText (bound : Nat) (c : Cursor) : Reading ((String × Span) × Cursor) :=
  match c.peek with
  | some '"' => readQuoted bound c
  | some '\'' => readQuoted bound c
  | some '[' => c.fail .collectionAsKey
  | some '\x7b' => c.fail .collectionAsKey
  | some '?' => c.fail .complexKey
  | _ =>
    let (text, after, stop) := scanPlainLine c
    if stop ≠ .colon ∨ text = [] then c.fail .expectedKey
    else .ok ((String.ofList text, ⟨c.offset, after.offset⟩), after)

/-- A key with its colon. -/
def readKey (bound : Nat) (c : Cursor) : Reading ((String × Span) × Cursor) := do
  let (key, after) ← readKeyText bound c
  let colon := after.skipInlineSpace
  if colon.atIndicator ':' then .ok (key, colon.next) else colon.fail .expectedColonAfterKey

/-- The end of a collection that reaches at least to `stop`, with a child behind it. -/
def reach (stop : Nat) (child : Node) : Nat :=
  max stop child.span.stop

/-- The entries of a block mapping at a column, each value read by `node`, and where they end. -/
def readBlockEntries (document : List Char) (node : State → Reading (Node × State))
    (column : Nat) : Nat → List String → State → Reading ((List (Entry Node) × Nat) × State)
  | 0, _, s => .ok (([], s.cursor.offset), s)
  | more + 1, seen, s => do
    let ((key, keySpan), c) ← readKey document.length s.cursor
    refuseRepeated seen key keySpan.start
    let (child, s) ← node (s.moveTo c)
    let entry : Entry Node := ⟨key, keySpan, child⟩
    let stop := reach c.offset child
    let s := s.skipLayout
    if s.cursor.atEnd || s.cursor.atDocumentMarker || s.cursor.column < column then
      .ok (([entry], stop), s)
    else if column < s.cursor.column then s.fail .badMappingIndentation
    else if s.cursor.atIndicator '-' then s.fail .sequenceEntryInMapping
    else
      let ((rest, restStop), s) ← readBlockEntries document node column more (key :: seen) s
      .ok ((entry :: rest, max stop restStop), s)

/-- The items of a block sequence at a column, each read by `node`, and where they end. -/
def readBlockItems (node : State → Reading (Node × State)) (column : Nat) :
    Nat → State → Reading ((List Node × Nat) × State)
  | 0, s => .ok (([], s.cursor.offset), s)
  | more + 1, s => do
    let dashEnd := s.cursor.next
    let (item, s) ← node (s.moveTo dashEnd)
    let stop := reach dashEnd.offset item
    let s := s.skipLayout
    if s.cursor.atEnd || s.cursor.atDocumentMarker then .ok (([item], stop), s)
    else if column < s.cursor.column then s.fail .badSequenceIndentation
    else if s.cursor.column < column || !s.cursor.atIndicator '-' then .ok (([item], stop), s)
    else
      let ((rest, restStop), s) ← readBlockItems node column more s
      .ok ((item :: rest, max stop restStop), s)

/-- How the nodes inside a node are read. -/
structure Children where
  /-- A block node at a place whose further lines keep to a margin. -/
  block : (margin : Nat) → Place → State → Reading (Node × State)
  /-- A flow collection. -/
  flow : State → Reading (Node × State)

/-- The block sequence that starts here. -/
def readBlockSequence (document : List Char) (children : Children) (s : State) :
    Reading (Node × State) := do
  let column := s.cursor.column
  let ((items, stop), after) ←
    readBlockItems (children.block (column + 1) .item) column document.length s
  .ok (.sequence items ⟨s.cursor.offset, stop⟩, after)

/-- The block mapping that starts here. -/
def readBlockMapping (document : List Char) (children : Children) (s : State) :
    Reading (Node × State) := do
  let column := s.cursor.column
  let ((entries, stop), after) ←
    readBlockEntries document (children.block (column + 1) .value) column
      document.length [] s
  .ok (.mapping entries ⟨s.cursor.offset, stop⟩, after)

/-- A mapping or a scalar without a mark of its own in front. -/
def readMappingOrScalar (document : List Char) (children : Children) (margin : Nat)
    (sameLine : Bool) (p : Properties) (s : State) : Reading (Node × State) := do
  if ← atMappingKey document.length s.cursor then
    if !p.isEmpty && !p.crossed then s.fail .propertiesOnKey
    else if sameLine then s.fail .nestedCompactMapping
    else readBlockMapping document children s
  else if s.cursor.atQuote then
    let ((text, span), after) ← readQuoted document.length s.cursor
    expectLineEnd after
    .ok (.scalar (.string text) span, s.moveTo after)
  else
    let (node, after) ← readPlain document.length margin s.cursor
    .ok (node, s.moveTo after)

/-- The content of a block node behind its properties. A node that has nothing at the margin or
right of it is empty and stands at `emptyAt`. -/
def readBlockContent (document : List Char) (children : Children) (margin : Nat)
    (place : Place) (crossed : Bool) (p : Properties) (emptyAt : Nat) (s : State) :
    Reading (Node × State) :=
  let c := s.cursor
  let sequence := c.atIndicator '-'
  if c.atEnd || c.atDocumentMarker then .ok (.empty emptyAt, s)
  else if crossed && c.column < margin then
    -- A mapping value may be a block sequence at the column of the key.
    if place = .value ∧ c.column + 1 = margin ∧ sequence then
      readBlockSequence document children s
    else .ok (.empty emptyAt, s)
  else
    let sameLine := !crossed && place = .value
    if sequence then
      if sameLine then s.fail .blockSequenceNotAllowed
      else readBlockSequence document children s
    else if c.atIndicator '?' then s.fail .complexKey
    else
      match c.peek with
      | some '*' =>
        if !p.isEmpty then s.fail .aliasWithProperties
        else do
          let (node, s) ← readAlias false s
          expectLineEnd s.cursor
          .ok (node, s)
      | some '@' => s.fail .reservedIndicator
      | some '\x60' => s.fail .reservedIndicator
      | some '[' => do
        let (node, s) ← children.flow s
        expectLineEnd s.cursor
        .ok (node, s)
      | some '\x7b' => do
        let (node, s) ← children.flow s
        expectLineEnd s.cursor
        .ok (node, s)
      | some '|' => do
        let (node, after) ← readBlockScalar document.length margin c
        .ok (node, s.moveTo after)
      | some '>' => do
        let (node, after) ← readBlockScalar document.length margin c
        .ok (node, s.moveTo after)
      | _ => readMappingOrScalar document children margin sameLine p s

/-- A block node whose further lines keep to a margin, with room for a number of levels of
nesting. -/
def readBlockNode (document : List Char) :
    Nat → (margin : Nat) → Place → State → Reading (Node × State)
  | 0, _, _, s => s.fail .nestingTooDeep
  | room + 1, margin, place, s => do
    let emptyAt := s.cursor.offset
    let (content, crossed) := s.cursor.skipLayout
    let (p, c) ← readProperties false 3 .none content
    let children : Children := ⟨readBlockNode document room, readFlowNode document room⟩
    let (node, s) ←
      readBlockContent document children margin place (crossed || p.crossed) p emptyAt
        (s.moveTo c)
    finishNode document p node s

/-- What may stand behind the root of a document: one closing marker. -/
def expectDocumentEnd (c : Cursor) : Reading Unit :=
  let c := c.skipLayout.1
  let c := if c.atMarker closingMarker then (c.advance 3).skipLayout.1 else c
  if c.atMarker openingMarker then c.fail .multipleDocuments
  else if !c.atEnd then c.fail .unexpectedContent
  else .ok ()

/-- Reads a text that holds one document. -/
def read (text : List Char) : Reading Node := do
  let start := (Cursor.start text).skipByteOrderMark
  let c := start.skipDirectives (text.length + 1)
  let c := if c.atMarker openingMarker then c.advance 3 else c
  let (root, s) ← readBlockNode text maxDepth 0 .document ⟨c, [], 0⟩
  expectDocumentEnd s.cursor
  .ok root

end SpecTrace.Yaml
