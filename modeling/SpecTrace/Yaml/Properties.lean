import SpecTrace.Document.JsonText
import SpecTrace.Document.SyntaxError
import SpecTrace.Yaml.CoreSchema
import SpecTrace.Yaml.Layout

/-! Anchors and tags in front of nodes, and aliases in place of nodes. -/

namespace SpecTrace.Yaml

/-- All aliases of a text together may expand to this many nodes. -/
def maxAliasNodes : Nat := 100000

/-- A reading position with what was read before it that matters later. -/
structure State where
  cursor : Cursor
  /-- Anchored nodes, the latest first. -/
  anchors : List (String × Node)
  /-- The number of nodes that aliases expanded to. -/
  copied : Nat

namespace State

/-- The state at another position. -/
def moveTo (s : State) (c : Cursor) : State :=
  { s with cursor := c }

/-- Fails at the position. -/
def fail {α : Type} (s : State) (fault : SyntaxFault) : Reading α :=
  s.cursor.fail fault

end State

/-- A character that separates or delimits flow collections. -/
def isFlowIndicator (c : Char) : Bool :=
  c = ',' || c = '[' || c = ']' || c = '\x7b' || c = '\x7d'

/-- A character that may stand in the name of an anchor or in a tag. -/
def isNameChar (inFlow : Bool) (c : Char) : Bool :=
  !isInlineSpace c && !isBreak c && !(inFlow && isFlowIndicator c)

/-- The anchor and the tag in front of a node. -/
structure Properties where
  /-- The tag and the offset at which it was written. -/
  tag : Option (Tag × Nat)
  anchor : Option String
  /-- A line break follows the properties. -/
  crossed : Bool

namespace Properties

/-- No properties. -/
def none : Properties := ⟨.none, .none, false⟩

/-- There is neither an anchor nor a tag. -/
def isEmpty (p : Properties) : Bool :=
  p.tag.isNone && p.anchor.isNone

end Properties

/-- The name behind the two spellings of a tag of the core schema. -/
def coreTagName? (token : List Char) : Option (List Char) :=
  let verbatim := "!<tag:yaml.org,2002:".toList
  if verbatim.isPrefixOf token ∧ token.getLast? = some '>' then
    some (token.drop verbatim.length).dropLast
  else if ['!', '!'].isPrefixOf token then some (token.drop 2)
  else none

/-- The tag that a token spells. -/
def tagOfToken (token : List Char) : Tag :=
  if token = ['!'] then .nonSpecific
  else
    match (coreTagName? token).map String.ofList with
    | some "str" => .str
    | some "int" => .int
    | some "float" => .float
    | some "bool" => .bool
    | some "null" => .null
    | _ => .other

/-- The token of a property, which starts at the position. -/
def propertyToken (inFlow : Bool) (c : Cursor) : Reading (List Char) :=
  if c.startsWith ['!', '<'] then
    if c.rest.contains '>' then .ok (c.rest.takeWhile (· ≠ '>') ++ ['>'])
    else c.fail .unterminatedTag
  else .ok (c.rest.takeWhile (isNameChar inFlow))

/-- Adds the property that a token spells. -/
def Properties.add (p : Properties) (token : List Char) (offset : Nat) : Reading Properties :=
  match token with
  | '&' :: name =>
    if name.isEmpty then .error ⟨offset, .expectedAnchorName⟩
    else if p.anchor.isSome then .error ⟨offset, .secondAnchor⟩
    else .ok { p with anchor := some (String.ofList name) }
  | _ =>
    if p.tag.isSome then .error ⟨offset, .secondTag⟩
    else .ok { p with tag := some (tagOfToken token, offset) }

/-- Reads properties in either order after those read so far. A third one repeats the first or
the second and fails, so the bound need not be larger than three. -/
def readProperties (inFlow : Bool) : Nat → Properties → Cursor → Reading (Properties × Cursor)
  | 0, p, c => .ok (p, c)
  | bound + 1, p, c =>
    if c.peek = some '!' ∨ c.peek = some '&' then do
      let token ← propertyToken inFlow c
      let p ← p.add token c.offset
      let (after, crossed) := (c.advance token.length).skipLayout
      readProperties inFlow bound { p with crossed := p.crossed || crossed } after
    else .ok (p, c)

/-- A copy of the node that an alias names. -/
def readAlias (inFlow : Bool) (s : State) : Reading (Node × State) :=
  let name := s.cursor.next.rest.takeWhile (isNameChar inFlow)
  match lookupMember? s.anchors (String.ofList name) with
  | none => s.fail (.unknownAlias (String.ofList name))
  | some node =>
    let copied := s.copied + node.count
    if maxAliasNodes < copied then s.fail .tooManyAliasNodes
    else .ok (node, { s with cursor := s.cursor.next.advance name.length, copied })

/-- The scalar that a tag makes of a text. -/
def tagged? (tag : Tag) (text : List Char) : Option Scalar :=
  match tag, resolvePlain text with
  | .str, _ => some (.string (String.ofList text))
  | .nonSpecific, _ => some (.string (String.ofList text))
  | .null, .null => some .null
  | .bool, .bool value => some (.bool value)
  | .int, .number (.int value) => some (.number (.int value))
  | .float, .number value => value.toFinite64?.map fun x => .number (.float x)
  | _, _ => none

/-- The text of a part of a document. -/
def textAt (document : List Char) (span : Span) : List Char :=
  takeBytes (span.stop - span.start) (dropBytes span.start document)

/-- The text that a tag resolves: that of a string, or else the one written in the document. -/
def scalarText (document : List Char) (value : Scalar) (span : Span) : List Char :=
  match value with
  | .string text => text.toList
  | _ => textAt document span

/-- Applies a tag that was written at an offset. -/
def applyTag (document : List Char) (tag : Tag) (offset : Nat) : Node → Reading Node
  | .scalar value span =>
    if tag = .other then .ok (.scalar value span)
    else
      let text := scalarText document value span
      match tagged? tag text with
      | some resolved => .ok (.scalar resolved span)
      | none => .error ⟨offset, .invalidTaggedValue (String.ofList text) tag⟩
  | node =>
    if tag = .nonSpecific ∨ tag = .other then .ok node
    else .error ⟨offset, .collectionWithTag tag⟩

/-- Applies the tag in front of a node, then records its anchor. -/
def finishNode (document : List Char) (p : Properties) (node : Node) (s : State) :
    Reading (Node × State) := do
  let node ←
    match p.tag with
    | some (tag, offset) => applyTag document tag offset node
    | none => .ok node
  match p.anchor with
  | some name => .ok (node, { s with anchors := (name, node) :: s.anchors })
  | none => .ok (node, s)

end SpecTrace.Yaml
