import SpecTrace.Discovery.Glob
import SpecTrace.Text.Utf8

/-! Which paths a glob pattern matches, byte by byte. -/

namespace SpecTrace

/-- The byte of a slash. -/
def slash : UInt8 := 0x2F

/-- All ends of a list, the list itself and the empty one among them. -/
def endsOf {α : Type} : List α → List (List α)
  | [] => [[]]
  | x :: rest => (x :: rest) :: endsOf rest

/-- What follows each slash. -/
def afterSlashes : List UInt8 → List (List UInt8)
  | [] => []
  | b :: rest => if b = slash then rest :: afterSlashes rest else afterSlashes rest

/-- What is left behind bytes without a slash. -/
def withinName : List UInt8 → List (List UInt8)
  | [] => [[]]
  | b :: rest => if b = slash then [b :: rest] else (b :: rest) :: withinName rest

/-- The ranges of bytes that a range of characters stands for. A character outside ASCII counts
as its bytes, and the range joins the last byte of one end and the first one of the other. -/
def byteRanges (range : Char × Char) : List (UInt8 × UInt8) :=
  let single (b : UInt8) : UInt8 × UInt8 := (b, b)
  let low := Utf8.encode [range.1]
  let high := Utf8.encode [range.2]
  if range.1 = range.2 then low.map single
  else
    low.dropLast.map single ++ [(low.getLast?.getD 0, high.headD 0)] ++ high.tail.map single

/-- The byte is in one of the ranges. -/
def inByteRanges (ranges : List (Char × Char)) (b : UInt8) : Bool :=
  (ranges.flatMap byteRanges).any fun range => range.1 ≤ b && b ≤ range.2

/-- What is left of bytes behind a beginning that they have to have. -/
def dropBeginning? : (beginning bytes : List UInt8) → Option (List UInt8)
  | [], bytes => some bytes
  | _ :: _, [] => none
  | a :: beginning, b :: bytes => if a = b then dropBeginning? beginning bytes else none

namespace GlobPart

mutual

/-- The part matches a beginning of the bytes behind which the rest is accepted. -/
def accepts (accept : List UInt8 → Bool) : GlobPart → List UInt8 → Bool
  | .literal c, bytes => (dropBeginning? (Utf8.encode [c]) bytes).any accept
  | .anyByte, bytes =>
    match bytes with
    | [] => false
    | b :: rest => b ≠ slash && accept rest
  | .anyName, bytes => (withinName bytes).any accept
  | .leadingDirs, bytes => accept bytes || (afterSlashes bytes).any accept
  | .trailingDirs, bytes =>
    match bytes with
    | [] => false
    | b :: rest => b = slash && (endsOf rest).any accept
  | .innerDirs, bytes =>
    match bytes with
    | [] => false
    | b :: rest => b = slash && (accept rest || (afterSlashes rest).any accept)
  | .byteClass negated ranges, bytes =>
    match bytes with
    | [] => false
    | b :: rest => (inByteRanges ranges b != negated) && accept rest
  | .alternatives choices, bytes =>
    match choices with
    | [] => accept bytes
    | first :: others => allAccept accept first bytes || someAccept accept others bytes

/-- The parts match one behind the other. -/
def allAccept (accept : List UInt8 → Bool) : List GlobPart → List UInt8 → Bool
  | [], bytes => accept bytes
  | part :: rest, bytes => accepts (fun left => allAccept accept rest left) part bytes

/-- One of several patterns matches. -/
def someAccept (accept : List UInt8 → Bool) : List (List GlobPart) → List UInt8 → Bool
  | [], _ => false
  | choice :: others, bytes => allAccept accept choice bytes || someAccept accept others bytes

end

end GlobPart

namespace Glob

/-- The pattern is two stars alone. -/
def isAnything (glob : Glob) : Bool :=
  match glob.parts with
  | [.leadingDirs] => true
  | _ => false

/-- The pattern matches the whole path. -/
def isMatch (glob : Glob) (path : String) : Bool :=
  -- Two stars alone match everything, the names of files among it.
  glob.isAnything || GlobPart.allAccept List.isEmpty glob.parts (Utf8.encode path.toList)

end Glob

end SpecTrace
