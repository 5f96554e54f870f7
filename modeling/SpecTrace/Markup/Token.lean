import SpecTrace.Markup.Position
import SpecTrace.Text.Percent

/-! The tokens of settings texts, and the words among them: directives, anchors and tags. -/

namespace SpecTrace.Markup

/-- A tag as written: the handle for a start, and what comes behind that start. -/
structure TagName where
  handle : List Char
  ending : List Char
deriving DecidableEq, Repr

/-- A token. The starts and ends of block collections are implied by indentation. -/
inductive Token where
  | versionDirective (major minor : Nat)
  /-- A handle, and the start of tags that it stands for. -/
  | tagDirective (handle start : List Char)
  | documentStart
  | documentEnd
  | blockSequenceStart
  | blockMappingStart
  | blockEnd
  | flowSequenceStart
  | flowSequenceEnd
  | flowMappingStart
  | flowMappingEnd
  | blockEntry
  | flowEntry
  | key
  | value
  | alias (name : List Char)
  | anchor (name : List Char)
  | tag (name : TagName)
  /-- A scalar, and whether it is plain. -/
  | scalar (plain : Bool) (text : List Char)
deriving DecidableEq, Repr

/-- A character of a name. -/
def isNameChar (c : Char) : Bool :=
  c.isAlphanum || c = '_' || c = '-'

/-! ### Anchors -/

/-- The name behind the mark of an anchor or an alias. -/
def readName? (p : Position) : Option (List Char × Position) :=
  let name := p.rest.takeWhile isNameChar
  let after := p.advance name.length
  let ends := isGap after.peek || after.peek.any fun c => "?:,]\x7d%@\x60".toList.contains c
  if name.isEmpty || !ends then none else some (name, after)

/-! ### Tags -/

/-- A character of a tag; brackets and commas only belong to tags that are written in full. -/
def isTagChar (full : Bool) (c : Char) : Bool :=
  isNameChar c || ";/?:@&=+$.!~*'()".toList.contains c || (full && ",[]".toList.contains c)

/-- Two hexadecimal digits follow every percent sign. -/
def hasWholeEscapes : List Char → Bool
  | [] => true
  | c :: rest =>
    let digits := rest.take 2
    (c ≠ '%' || (digits.length = 2 && digits.all fun d => (digitValue? 16 d).isSome)) &&
      hasWholeEscapes rest

/-- The characters of a tag, with percent-encoded ones decoded. -/
def readTagChars? (full : Bool) (p : Position) : Option (List Char × Position) := do
  let written := p.rest.takeWhile fun c => c = '%' || isTagChar full c
  let decoded ← (Utf8.decode (Percent.decode written)).mapM id
  if hasWholeEscapes written then some (decoded, p.advance written.length) else none

/-- The tag that is written in full or as a part behind a handle. -/
def readTagName? (p : Position) : Option (TagName × Position) := do
  if p.peekSecond = some '<' then
    let (chars, after) ← readTagChars? true (p.advance 2)
    if chars.isEmpty || after.peek ≠ some '>' then none
    else some (⟨[], chars⟩, after.next)
  else
    let name := p.next.rest.takeWhile isNameChar
    let behind := p.next.advance name.length
    if behind.peek = some '!' then
      let (chars, after) ← readTagChars? false behind.next
      if chars.isEmpty then none else some (⟨'!' :: name ++ ['!'], chars⟩, after)
    else
      let (chars, after) ← readTagChars? false p.next
      if chars.isEmpty then some (⟨[], ['!']⟩, after) else some (⟨['!'], chars⟩, after)

/-- The tag that starts here; a gap follows it, or a comma in a flow collection. -/
def readTag? (inFlow : Bool) (p : Position) : Option (TagName × Position) := do
  let (name, after) ← readTagName? p
  if isGap after.peek || (inFlow && after.peek = some ',') then some (name, after) else none

/-! ### Directives -/

/-- A number of one to nine digits. -/
def readVersionNumber? (p : Position) : Option (Nat × Position) :=
  let digits := p.rest.takeWhile Char.isDigit
  if digits.isEmpty || 9 < digits.length then none
  else (readDigits? 10 0 digits).map fun n => (n, p.advance digits.length)

/-- The two numbers of a version. -/
def readVersion? (p : Position) : Option (Token × Position) := do
  let (major, p) ← readVersionNumber? p
  if p.peek ≠ some '.' then none
  else
    let (minor, p) ← readVersionNumber? p.next
    some (.versionDirective major minor, p)

/-- A handle and the start of tags that it stands for. -/
def readHandle? (p : Position) : Option (Token × Position) := do
  let name := p.next.rest.takeWhile isNameChar
  let behind := p.next.advance name.length
  let closed := behind.peek = some '!'
  let after := if closed then behind.next else behind
  if p.peek ≠ some '!' || (!closed && !name.isEmpty) || !after.peek.any isInlineSpace then none
  else
    let handle := '!' :: name ++ (if closed then ['!'] else [])
    let (start, after) ← readTagChars? true (after.skipWhile isInlineSpace)
    if start.isEmpty || !isGap after.peek then none else some (.tagDirective handle start, after)

/-- The directive behind a percent sign, up to the end of its line. -/
def readDirective? (p : Position) : Option (Token × Position) := do
  let name := p.rest.takeWhile isNameChar
  let behind := p.advance name.length
  let start := behind.skipWhile isInlineSpace
  if !isGap behind.peek then none
  else
    let (directive, after) ←
      if name = "YAML".toList then readVersion? start
      else if name = "TAG".toList then readHandle? start
      else none
    let after ← after.endLine?
    some (directive, after)

end SpecTrace.Markup
