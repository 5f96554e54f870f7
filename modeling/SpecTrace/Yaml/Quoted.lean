import SpecTrace.Document.SyntaxError
import SpecTrace.Document.Node
import SpecTrace.Document.JsonText
import SpecTrace.Yaml.Layout

/-! Scalars in single or double quotes. -/

namespace SpecTrace.Yaml

/-- The character that a single letter or mark after a backslash stands for. -/
def shortEscape? : Char → Option Char
  | '0' => some '\x00'
  | 'a' => some '\x07'
  | 'b' => some '\x08'
  | 't' => some '\t'
  | '\t' => some '\t'
  | 'n' => some '\n'
  | 'v' => some '\x0b'
  | 'f' => some '\x0c'
  | 'r' => some '\r'
  | 'e' => some '\x1b'
  | ' ' => some ' '
  | '"' => some '"'
  | '/' => some '/'
  | '\\' => some '\\'
  | 'N' => some '\u0085'
  | '_' => some '\u00a0'
  | 'L' => some '\u2028'
  | 'P' => some '\u2029'
  | _ => none

/-- The number of bytes of hexadecimal digits after a letter. -/
def hexEscapeLength? : Char → Option Nat
  | 'x' => some 2
  | 'u' => some 4
  | 'U' => some 8
  | _ => none

/-- The character whose code point stands next in a number of bytes of hexadecimal digits. -/
def readHexEscape (length : Nat) (c : Cursor) : Reading (Char × Cursor) :=
  match takeExactBytes? length c.rest with
  | none => c.fail .truncatedEscapeSequence
  | some digits =>
    match (readNatural? 16 digits).bind charOfCode? with
    | none => c.fail .invalidEscapeSequence
    | some decoded => .ok (decoded, c.advance digits.length)

/-- What stands after a backslash; an escaped line break with the blanks behind it is nothing. -/
def readEscape (c : Cursor) : Reading (Option Char × Cursor) :=
  match c.peek with
  | none => c.fail .unterminatedEscape
  | some letter =>
    if isBreak letter then .ok (none, c.skipBreak.skipInlineSpace)
    else
      match hexEscapeLength? letter with
      | some length => do
        let (decoded, after) ← readHexEscape length c.next
        .ok (some decoded, after)
      | none =>
        match shortEscape? letter with
        | some decoded => .ok (some decoded, c.next)
        | none => .error ⟨c.next.offset - 1, .invalidEscapeSequence⟩

/-- Folds a line break: blanks before it go, then comes a space or the line feeds of the blank
lines. The characters read so far are in reverse. -/
def foldBreak (read : List Char) (c : Cursor) : List Char × Cursor :=
  let (after, blankLines) := c.skipBreak.skipBlankLines
  (foldedBreak blankLines ++ read.dropWhile isInlineSpace, after)

/-- The rest of a scalar that a quote at the given offset opened; the characters read so far are
in reverse. A bound on the characters left drives the recursion. -/
def readQuotedRest (began : Nat) (quote : Char) :
    Nat → List Char → Cursor → Reading (String × Cursor)
  | 0, _, _ => .error ⟨began, .unterminatedQuoted⟩
  | bound + 1, read, c =>
    match c.peek with
    | none => .error ⟨began, .unterminatedQuoted⟩
    | some letter =>
      if letter = quote then
        -- A doubled single quote stands for one.
        if quote = '\'' ∧ c.peekSecond = some '\'' then
          readQuotedRest began quote bound ('\'' :: read) (c.advance 2)
        else .ok (String.ofList read.reverse, c.next)
      else if letter = '\\' ∧ quote = '"' then do
        let (decoded, after) ← readEscape c.next
        readQuotedRest began quote bound (decoded.toList ++ read) after
      else if isBreak letter then
        let (read, after) := foldBreak read c
        readQuotedRest began quote bound read after
      else readQuotedRest began quote bound (letter :: read) c.next

/-- A scalar in the quotes that come next, and where it was written. -/
def readQuoted (bound : Nat) (c : Cursor) : Reading ((String × Span) × Cursor) := do
  let (text, after) ← readQuotedRest c.offset (c.peek.getD '"') bound [] c.next
  .ok ((text, ⟨c.offset, after.offset⟩), after)

end SpecTrace.Yaml
