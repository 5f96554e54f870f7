import SpecTrace.Yaml.Properties
import SpecTrace.Yaml.Quoted

/-! Flow collections and the nodes inside them. -/

namespace SpecTrace.Yaml

/-- Scans a plain scalar inside a flow collection: the number of characters of its text without
trailing blanks. `read` characters are behind, the text among them ends after `text`. -/
def scanFlow : (afterBlank : Bool) → (read text : Nat) → List Char → Nat
  | _, _, text, [] => text
  | afterBlank, read, text, c :: rest =>
    let separates := isBlank rest.head? || rest.head?.any isFlowIndicator
    if isBreak c || isFlowIndicator c then text
    else if c = ':' && separates then text
    else if c = '#' && afterBlank then text
    else if isInlineSpace c then scanFlow true (read + 1) text rest
    else scanFlow false (read + 1) (read + 1) rest

/-- A quoted or plain scalar inside a flow collection. -/
def readFlowScalar (bound : Nat) (c : Cursor) : Reading ((Scalar × Span) × Cursor) :=
  if c.atQuote then do
    let ((text, span), after) ← readQuoted bound c
    .ok ((.string text, span), after)
  else
    let length := scanFlow true 0 0 c.rest
    if length = 0 then c.fail .expectedValue
    else
      let after := c.advance length
      .ok ((resolvePlain (c.rest.take length), ⟨c.offset, after.offset⟩), after)

/-- The key that a scalar stands for: a string itself, anything else as it was written. -/
def scalarKey (document : List Char) (value : Scalar) (span : Span) : String :=
  String.ofList (scalarText document value span)

/-- The value after a colon, read by `node` unless it is left out. -/
def readFlowValue (node : State → Reading (Node × State)) (s : State) :
    Reading (Node × State) :=
  match s.cursor.peek with
  | none => .ok (.empty s.cursor.offset, s)
  | some c =>
    if c = ',' ∨ c = ']' ∨ c = '\x7d' then .ok (.empty s.cursor.offset, s) else node s

/-- The state past layout. -/
def State.skipLayout (s : State) : State :=
  s.moveTo s.cursor.skipLayout.1

/-- The state one character further. -/
def State.next (s : State) : State :=
  s.moveTo s.cursor.next

/-- A mapping of the single pair that a node inside a sequence begins, up to its value. -/
def readPair (document : List Char) (node : State → Reading (Node × State)) (key : Node)
    (s : State) : Reading (Node × State) :=
  match key with
  | .scalar value keySpan => do
    let (child, s) ← readFlowValue node s.next.skipLayout
    let span := ⟨keySpan.start, max child.span.stop keySpan.stop⟩
    .ok (.mapping [⟨scalarKey document value keySpan, keySpan, child⟩] span, s)
  | _ => s.fail .collectionAsKey

/-- What stands behind a part of a flow collection: a comma with more parts, or the closing mark. -/
def readFlowRest {α : Type} (close : Char) (more : State → Reading (List α × State)) (part : α)
    (s : State) : Reading (List α × State) := do
  let s := s.skipLayout
  if s.cursor.peek = some ',' then
    let (rest, s) ← more s.next
    .ok (part :: rest, s)
  else if s.cursor.peek = some close then .ok ([part], s.next)
  else s.fail (.expectedCommaOr close)

/-- The items of a flow sequence that began at the given offset, each read by `node`, up to and
with the closing bracket. -/
def readFlowItems (document : List Char) (node : State → Reading (Node × State))
    (began : Nat) : Nat → State → Reading (List Node × State)
  | 0, _ => .error ⟨began, .unterminatedFlowSequence⟩
  | bound + 1, s => do
    let s := s.skipLayout
    match s.cursor.peek with
    | none => .error ⟨began, .unterminatedFlowSequence⟩
    | some ']' => .ok ([], s.next)
    | some _ => do
      let (item, s) ← node s
      let s := s.skipLayout
      let (item, s) ←
        if s.cursor.peek = some ':' then readPair document node item s else .ok (item, s)
      readFlowRest ']' (readFlowItems document node began bound) item s

/-- The entries of a flow mapping that began at the given offset, each value read by `node`, up
to and with the closing brace. -/
def readFlowEntries (document : List Char) (node : State → Reading (Node × State))
    (began : Nat) : Nat → List String → State → Reading (List (Entry Node) × State)
  | 0, _, _ => .error ⟨began, .unterminatedFlowMapping⟩
  | bound + 1, seen, s => do
    let s := s.skipLayout
    match s.cursor.peek with
    | none => .error ⟨began, .unterminatedFlowMapping⟩
    | some '\x7d' => .ok ([], s.next)
    | some '[' => s.fail .collectionAsKey
    | some '\x7b' => s.fail .collectionAsKey
    | some '!' => s.fail .propertiesOnFlowKey
    | some '&' => s.fail .propertiesOnFlowKey
    | some '*' => s.fail .propertiesOnFlowKey
    | some _ => do
      let ((value, keySpan), after) ← readFlowScalar document.length s.cursor
      let key := scalarKey document value keySpan
      refuseRepeated seen key keySpan.start
      let s := (s.moveTo after).skipLayout
      let (child, s) ←
        if s.cursor.peek = some ':' then readFlowValue node s.next.skipLayout
        else .ok (.empty keySpan.stop, s)
      let more := readFlowEntries document node began bound (key :: seen)
      readFlowRest '\x7d' more ⟨key, keySpan, child⟩ s

/-- The content of a flow node behind its properties; the nodes inside are read by `node`. -/
def readFlowContent (document : List Char) (node : State → Reading (Node × State))
    (p : Properties) (s : State) : Reading (Node × State) :=
  let began := s.cursor.offset
  match s.cursor.peek with
  | some '[' => do
    let (items, after) ← readFlowItems document node began document.length s.next
    .ok (.sequence items ⟨began, after.cursor.offset⟩, after)
  | some '\x7b' => do
    let (entries, after) ← readFlowEntries document node began document.length [] s.next
    .ok (.mapping entries ⟨began, after.cursor.offset⟩, after)
  | next =>
    -- Properties may stand alone, in front of an empty node.
    if !p.isEmpty && next.all fun c => c = ',' || c = ']' || c = '\x7d' then
      .ok (.empty began, s)
    else do
      let ((value, span), after) ← readFlowScalar document.length s.cursor
      .ok (.scalar value span, s.moveTo after)

/-- A node inside a flow collection, or a flow collection itself, with room for a number of
levels of nesting. -/
def readFlowNode (document : List Char) : Nat → State → Reading (Node × State)
  | 0, s => s.fail .nestingTooDeep
  | room + 1, s => do
    let (p, c) ← readProperties true 3 .none s.cursor
    let s := s.moveTo c
    if c.peek = some '*' then
      if p.isEmpty then readAlias true s else s.fail .aliasWithProperties
    else
      let (content, s) ← readFlowContent document (readFlowNode document room) p s
      finishNode document p content s

end SpecTrace.Yaml
