import SpecTrace.Json.Number
import SpecTrace.Yaml.Layout
import SpecTrace.Yaml.WideSchema

/-! How strings are written as YAML scalars. -/

namespace SpecTrace.Yaml

/-- A character at which YAML writers start another line. -/
def isLineBreak (c : Char) : Bool :=
  isBreak c || c = '\u0085' || c = '\u2028' || c = '\u2029'

/-- A character that separates an indicator from text; so does the end of a text. -/
def isSeparator (c : Char) : Bool :=
  isInlineSpace c || isLineBreak c || c = '\x00'

/-- A character that may be written as it is. -/
def isPrintable (c : Char) : Bool :=
  let n := c.toNat
  c = '\n' || (0x20 ≤ n && n ≤ 0x7E) || (0xA0 ≤ n && n ≤ 0xFFFD && n ≠ 0xFEFF) || 0x10000 ≤ n

/-- Some character with the first property is followed by one with the second. -/
def hasPair (first second : Char → Bool) : List Char → Bool
  | a :: b :: rest => (first a && second b) || hasPair first second (b :: rest)
  | _ => false

/-- Characters that cannot begin a plain scalar. -/
def leadingIndicators : List Char :=
  ['#', ',', '[', ']', '\x7b', '\x7d', '&', '*', '!', '|', '>', '\'', '"', '%', '@', '\x60']

/-- Something in the text would be read as an indicator in block context. -/
def hasBlockIndicator (text : List Char) : Bool :=
  let startsMarker := openingMarker.isPrefixOf text || closingMarker.isPrefixOf text
  let startsIndicator :=
    match text with
    | [] => false
    | c :: rest =>
      leadingIndicators.contains c || ((c = '?' || c = '-') && rest.head?.all isSeparator)
  startsMarker || startsIndicator || hasPair (· = ':') isSeparator text ||
    text.getLast? = some ':' || hasPair isSeparator (· = '#') text

/-- A way to write a scalar. -/
inductive ScalarStyle where
  | plain
  | singleQuoted
  | doubleQuoted
  | literal
deriving DecidableEq, Repr

namespace ScalarStyle

/-- No style but the double-quoted one can show the text. -/
def needsEscapes (text : List Char) : Bool :=
  text.any (fun c => !isPrintable c) || hasPair (· = ' ') isLineBreak text

/-- The text can stand without quotes. -/
def allowsPlain (text : List Char) : Bool :=
  let open_ (c : Char) : Bool := c = ' ' || isLineBreak c
  !needsEscapes text && !hasBlockIndicator text && !text.any isLineBreak &&
    !text.head?.any open_ && !text.getLast?.any open_

/-- The text can stand in single quotes. -/
def allowsSingleQuoted (text : List Char) : Bool :=
  !needsEscapes text && !hasPair isLineBreak (· = ' ') text

/-- The text can stand in a literal block. -/
def allowsLiteral (text : List Char) : Bool :=
  !needsEscapes text && text.getLast? ≠ some ' '

/-- The style of a string: a literal block for lines, quotes where it could be taken for something
other than a string. Blocks cannot stand in front of a colon. -/
def ofText (beforeColon : Bool) (text : List Char) : ScalarStyle :=
  if text.contains '\n' then
    if allowsLiteral text && !beforeColon then .literal else .doubleQuoted
  else if isWideString text && !isPaddedInteger text && allowsPlain text then .plain
  else if allowsSingleQuoted text then .singleQuoted
  else .doubleQuoted

end ScalarStyle

/-- The letter that stands for a character behind a backslash. -/
def escapeLetter? : Char → Option Char
  | '\x00' => some '0'
  | '\x07' => some 'a'
  | '\x08' => some 'b'
  | '\t' => some 't'
  | '\n' => some 'n'
  | '\x0b' => some 'v'
  | '\x0c' => some 'f'
  | '\r' => some 'r'
  | '\x1b' => some 'e'
  | '"' => some '"'
  | '\\' => some '\\'
  | '\u0085' => some 'N'
  | '\u00a0' => some '_'
  | '\u2028' => some 'L'
  | '\u2029' => some 'P'
  | _ => none

/-- A number of upper case hexadecimal digits. -/
def hexDigits : (count : Nat) → Nat → List Char
  | 0, _ => []
  | count + 1, n => hexDigits count (n / 16) ++ [(Nat.digitChar (n % 16)).toUpper]

/-- A character behind a backslash. -/
def escapedScalarChar (c : Char) : List Char :=
  let n := c.toNat
  match escapeLetter? c with
  | some letter => ['\\', letter]
  | none =>
    if n ≤ 0xFF then '\\' :: 'x' :: hexDigits 2 n
    else if n ≤ 0xFFFF then '\\' :: 'u' :: hexDigits 4 n
    else '\\' :: 'U' :: hexDigits 8 n

/-- A text in double quotes. -/
def doubleQuoted (text : List Char) : List Char :=
  let inside (c : Char) : List Char :=
    if !isPrintable c || isLineBreak c || c = '"' || c = '\\' then escapedScalarChar c else [c]
  '"' :: text.flatMap inside ++ ['"']

/-- Indents what begins a line. -/
def indentLines (indent : Nat) : (lineStart : Bool) → List Char → List Char
  | _, [] => []
  | lineStart, c :: rest =>
    if isLineBreak c then c :: indentLines indent true rest
    else
      let space := if lineStart then List.replicate indent ' ' else []
      space ++ c :: indentLines indent false rest

/-- A text in single quotes, a quote inside being doubled. -/
def singleQuoted (indent : Nat) (text : List Char) : List Char :=
  let inside := indentLines indent false text
  let doubled := inside.flatMap fun c => if c = '\'' then ['\'', '\''] else [c]
  let space := if text.getLast?.any isLineBreak then List.replicate indent ' ' else []
  '\'' :: doubled ++ space ++ ['\'']

/-- The marks in the header of a literal block: the indentation if the text does not show it, and
how the lines end. -/
def literalHeader (text : List Char) : List Char :=
  let width := if text.head?.any fun c => c = ' ' || isLineBreak c then ['2'] else []
  let chomping :=
    match text.reverse with
    | [] => ['-']
    | [c] => if isLineBreak c then ['+'] else ['-']
    | c :: d :: _ => if !isLineBreak c then ['-'] else if isLineBreak d then ['+'] else []
  '|' :: width ++ chomping

/-- A literal block with its last line break. -/
def literalBlock (indent : Nat) (text : List Char) : List Char :=
  let close := if text.getLast?.any isLineBreak then [] else ['\n']
  literalHeader text ++ '\n' :: indentLines indent true text ++ close

/-- A string that ends its line. -/
def stringLine (indent : Nat) (text : List Char) : List Char :=
  match ScalarStyle.ofText false text with
  | .plain => text ++ ['\n']
  | .singleQuoted => singleQuoted indent text ++ ['\n']
  | .doubleQuoted => doubleQuoted text ++ ['\n']
  | .literal => literalBlock indent text

/-- A string in front of a colon. -/
def stringKey (indent : Nat) (text : List Char) : List Char :=
  match ScalarStyle.ofText true text with
  | .plain => text
  | .singleQuoted => singleQuoted indent text
  | _ => doubleQuoted text

/-- The text of a number; exponents have no plus sign. -/
def numberText (value : JsonNumber) : List Char :=
  value.text.filter (· ≠ '+')

end SpecTrace.Yaml
