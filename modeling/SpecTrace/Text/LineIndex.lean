import SpecTrace.Text.Cursor

/-! Line numbers of byte offsets, with `\n`, `\r\n` and a lone `\r` as line terminators. -/

namespace SpecTrace

/-- Byte offsets right after each line terminator of a text that begins at the given offset. -/
def terminatorEnds : Nat → List Char → List Nat
  | _, [] => []
  | offset, '\r' :: '\n' :: rest => (offset + 2) :: terminatorEnds (offset + 2) rest
  | offset, c :: rest =>
    let after := offset + c.utf8Size
    if isBreak c then after :: terminatorEnds after rest else terminatorEnds after rest

/-- Line numbers with the byte offsets at which the lines start. -/
structure LineIndex where
  /-- Pairs of a 1-based line number and its start, in order. -/
  lines : List (Nat × Nat)
deriving DecidableEq, Repr

namespace LineIndex

/-- Numbers the first line and the line after every terminator. -/
def ofText (text : List Char) : LineIndex :=
  ⟨(0 :: terminatorEnds 0 text).mapIdx fun i start => (i + 1, start)⟩

/-- The number of lines; a terminator at the very end opens an empty last line. -/
def lineCount (index : LineIndex) : Nat :=
  index.lines.length

/-- The last line that starts at or before the offset, `0` if there is none. -/
def lineFor (index : LineIndex) (offset : Nat) : Nat :=
  match (index.lines.takeWhile fun line => line.2 ≤ offset).getLast? with
  | some line => line.1
  | none => 0

end LineIndex

end SpecTrace
