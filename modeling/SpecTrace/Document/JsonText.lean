import SpecTrace.Document.Node
import SpecTrace.Document.SyntaxError

/-! Reading JSON text as a tree with positions. -/

namespace SpecTrace

/-- The character with a code point; surrogates have none. -/
def charOfCode? (code : Nat) : Option Char :=
  if code.isValidChar then some (Char.ofNat code) else none

/-- The text between a position and a later one. -/
def Cursor.textUpTo (c later : Cursor) : List Char :=
  takeBytes (later.offset - c.offset) c.rest

/-- Fails with a repeated key if the key is among those seen before. -/
def refuseRepeated (seen : List String) (key : String) (offset : Nat) :
    Reading Unit :=
  if seen.contains key then .error ⟨offset, .duplicateKey key⟩ else .ok ()

namespace JsonText

/-- Collections may be nested this deep. -/
def maxDepth : Nat := 512

/-- The white space between tokens. -/
def isSpace (c : Char) : Bool :=
  isInlineSpace c || isBreak c

/-- Past white space. -/
def skipSpace (c : Cursor) : Cursor :=
  c.skipWhile isSpace

/-- Past a character that has to come next. -/
def expect (wanted : Char) (c : Cursor) : Reading Cursor :=
  if c.peek = some wanted then .ok c.next else c.fail (.expected wanted)

/-- The character that a single letter or mark after a backslash stands for. -/
def shortEscape? : Char → Option Char
  | '"' => some '"'
  | '\\' => some '\\'
  | '/' => some '/'
  | 'b' => some '\x08'
  | 'f' => some '\x0c'
  | 'n' => some '\n'
  | 'r' => some '\r'
  | 't' => some '\t'
  | _ => none

/-- Four bytes of hexadecimal digits. -/
def readCodeUnit (c : Cursor) : Reading (Nat × Cursor) :=
  match takeExactBytes? 4 c.rest with
  | none => c.fail .truncatedUnicodeEscape
  | some digits =>
    match readNatural? 16 digits with
    | none => c.fail .invalidUnicodeEscape
    | some unit => .ok (unit, c.advance digits.length)

/-- The digits of a unicode escape, with a second escape after a high surrogate. -/
def readUnicodeEscape (c : Cursor) : Reading (Char × Cursor) := do
  let (first, c) ← readCodeUnit c
  if 0xD800 ≤ first ∧ first < 0xDC00 then
    if !c.startsWith ['\\', 'u'] then c.fail .unpairedSurrogate
    else
      let (second, c) ← readCodeUnit (c.advance 2)
      if 0xDC00 ≤ second ∧ second < 0xE000 then
        match charOfCode? (0x10000 + (first - 0xD800) * 0x400 + (second - 0xDC00)) with
        | some decoded => .ok (decoded, c)
        | none => c.fail .invalidUnicodeEscape
      else c.fail .invalidLowSurrogate
  else
    match charOfCode? first with
    | some decoded => .ok (decoded, c)
    | none => c.fail .invalidUnicodeEscape

/-- What stands after a backslash. -/
def readEscape (c : Cursor) : Reading (Char × Cursor) :=
  match c.peek with
  | none => c.fail .unterminatedEscape
  | some 'u' => readUnicodeEscape c.next
  | some letter =>
    match shortEscape? letter with
    | some decoded => .ok (decoded, c.next)
    | none => c.fail .invalidEscape

/-- The rest of a string that began at the given offset; the characters read so far are in
reverse. A bound on the characters left drives the recursion. -/
def readStringRest (began : Nat) : Nat → List Char → Cursor → Reading (String × Cursor)
  | 0, _, _ => .error ⟨began, .unterminatedString⟩
  | bound + 1, read, c =>
    match c.peek with
    | none => .error ⟨began, .unterminatedString⟩
    | some '"' => .ok (String.ofList read.reverse, c.next)
    | some '\\' => do
      let (decoded, c) ← readEscape c.next
      readStringRest began bound (decoded :: read) c
    | some letter =>
      if letter.toNat < 0x20 then c.fail .controlCharacter
      else readStringRest began bound (letter :: read) c.next

/-- A string in double quotes and where it was written. -/
def readString (bound : Nat) (c : Cursor) : Reading ((String × Span) × Cursor) := do
  let inside ← expect '"' c
  let (text, after) ← readStringRest c.offset bound [] inside
  .ok ((text, ⟨c.offset, after.offset⟩), after)

/-- A word that stands for a scalar. -/
def readWord (word : List Char) (value : Scalar) (c : Cursor) : Reading (Node × Cursor) :=
  if c.startsWith word then
    let after := c.advance word.length
    .ok (.scalar value ⟨c.offset, after.offset⟩, after)
  else c.fail .invalidLiteral

/-- One or more digits. -/
def expectDigits (fault : SyntaxFault) (c : Cursor) : Reading Cursor :=
  match c.peek with
  | some digit => if digit.isDigit then .ok (c.skipWhile Char.isDigit) else c.fail fault
  | none => c.fail fault

/-- The digits before a point: a lone zero, or digits that begin with another one. -/
def expectWhole (c : Cursor) : Reading Cursor :=
  if c.peek = some '0' then .ok c.next else expectDigits .invalidNumber c

/-- An optional point with digits behind it. -/
def expectFraction (c : Cursor) : Reading Cursor :=
  if c.peek = some '.' then expectDigits .expectedFractionDigits c.next else .ok c

/-- An optional exponent. -/
def expectExponent (c : Cursor) : Reading Cursor :=
  if c.peek = some 'e' ∨ c.peek = some 'E' then
    let c := c.next
    let c := if c.peek = some '+' ∨ c.peek = some '-' then c.next else c
    expectDigits .expectedExponentDigits c
  else .ok c

/-- A number. -/
def readNumber (c : Cursor) : Reading (Node × Cursor) := do
  let unsigned := if c.peek = some '-' then c.next else c
  let after ← expectWhole unsigned
  let after ← expectFraction after
  let after ← expectExponent after
  let text := c.textUpTo after
  match JsonNumber.read? text with
  | some value => .ok (.scalar (.number value) ⟨c.offset, after.offset⟩, after)
  | none => c.fail (.numberOutOfRange (String.ofList text))

/-- The items of an array, each read by `value`, up to and with the closing bracket. -/
def readItems (value : Cursor → Reading (Node × Cursor)) :
    Nat → Cursor → Reading (List Node × Cursor)
  | 0, c => c.fail .unexpectedEnd
  | bound + 1, c => do
    let (item, c) ← value (skipSpace c)
    let c := skipSpace c
    match c.peek with
    | some ',' => do
      let (rest, after) ← readItems value bound c.next
      .ok (item :: rest, after)
    | some ']' => .ok ([item], c.next)
    | _ => c.fail (.expectedCommaOr ']')

/-- The members of an object, each value read by `value`, up to and with the closing brace. -/
def readMembers (value : Cursor → Reading (Node × Cursor)) (stringBound : Nat) :
    Nat → List String → Cursor → Reading (List (Entry Node) × Cursor)
  | 0, _, c => c.fail .unexpectedEnd
  | bound + 1, seen, c => do
    let c := skipSpace c
    if c.peek ≠ some '"' then c.fail .expectedStringKey
    else
      let ((key, keySpan), c) ← readString stringBound c
      refuseRepeated seen key keySpan.start
      let c ← expect ':' (skipSpace c)
      let (child, c) ← value (skipSpace c)
      let entry : Entry Node := ⟨key, keySpan, child⟩
      let c := skipSpace c
      match c.peek with
      | some ',' => do
        let (rest, after) ← readMembers value stringBound bound (key :: seen) c.next
        .ok (entry :: rest, after)
      | some '\x7d' => .ok ([entry], c.next)
      | _ => c.fail (.expectedCommaOr '\x7d')

/-- An array whose items are read by `value`. -/
def readArray (value : Cursor → Reading (Node × Cursor)) (bound : Nat) (c : Cursor) :
    Reading (Node × Cursor) := do
  let inside := skipSpace c.next
  if inside.peek = some ']' then
    let after := inside.next
    .ok (.sequence [] ⟨c.offset, after.offset⟩, after)
  else
    let (items, after) ← readItems value bound inside
    .ok (.sequence items ⟨c.offset, after.offset⟩, after)

/-- An object whose values are read by `value`. -/
def readObject (value : Cursor → Reading (Node × Cursor)) (bound : Nat) (c : Cursor) :
    Reading (Node × Cursor) := do
  let inside := skipSpace c.next
  if inside.peek = some '\x7d' then
    let after := inside.next
    .ok (.mapping [] ⟨c.offset, after.offset⟩, after)
  else
    let (entries, after) ← readMembers value bound bound [] inside
    .ok (.mapping entries ⟨c.offset, after.offset⟩, after)

/-- A value with room for a number of levels of nesting; no list in it is longer than the bound. -/
def readValue (bound : Nat) : Nat → Cursor → Reading (Node × Cursor)
  | room, c =>
    match c.peek with
    | some '\x7b' =>
      match room with
      | 0 => c.fail .nestingTooDeep
      | room + 1 => readObject (readValue bound room) bound c
    | some '[' =>
      match room with
      | 0 => c.fail .nestingTooDeep
      | room + 1 => readArray (readValue bound room) bound c
    | some '"' => do
      let ((text, span), after) ← readString bound c
      .ok (.scalar (.string text) span, after)
    | some 't' => readWord ['t', 'r', 'u', 'e'] (.bool true) c
    | some 'f' => readWord ['f', 'a', 'l', 's', 'e'] (.bool false) c
    | some 'n' => readWord ['n', 'u', 'l', 'l'] .null c
    | some letter =>
      if letter = '-' ∨ letter.isDigit then readNumber c else c.fail .unexpectedCharacter
    | none => c.fail .unexpectedEnd

/-- Reads a text that holds one value. -/
def read (text : List Char) : Reading Node := do
  let c := skipSpace (Cursor.start text).skipByteOrderMark
  let (root, c) ← readValue text.length maxDepth c
  let c := skipSpace c
  if c.atEnd then .ok root else c.fail .contentAfterDocument

end JsonText

end SpecTrace
