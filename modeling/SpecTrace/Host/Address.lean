import SpecTrace.Number.Decimal
import SpecTrace.Path.Components

/-! Addresses of hosts: numbers of four bytes, and numbers of eight pieces in brackets. -/

namespace SpecTrace.Host

/-! ### Four bytes -/

/-- A number of an address of four bytes, decimal, octal or hexadecimal; none inside for one that
does not fit. -/
def addressNumber? (text : List Char) : Option (Option Nat) :=
  let bounded (radix : Nat) (digits : List Char) : Option (Option Nat) :=
    (readDigits? radix 0 digits).map fun n => if n < Nat.pow 2 32 then some n else none
  match text with
  | [] => none
  | '0' :: 'x' :: digits => bounded 16 digits
  | '0' :: 'X' :: digits => bounded 16 digits
  | '0' :: digit :: digits => bounded 8 (digit :: digits)
  | digits => bounded 10 digits

/-- The last part of a domain, not counting an empty one at the very end, is a number. -/
def endsInNumber (domain : List Char) : Bool :=
  let parts := splitChars '.' domain
  let parts := if parts.getLast? = some [] then parts.dropLast else parts
  match parts.getLast? with
  | none => false
  | some last => (!last.isEmpty && last.all Char.isDigit) || (addressNumber? last).isSome

/-- An address of four bytes in one to four parts. -/
def isAddress (domain : List Char) : Bool :=
  let parts := splitChars '.' domain
  let parts := if parts.getLast? = some [] then parts.dropLast else parts
  match (parts.mapM fun part => (addressNumber? part).join).map List.reverse with
  | some (last :: before) =>
    before.length < 4 && before.all (· ≤ 255) && last < Nat.pow 256 (4 - before.length)
  | _ => false

/-! ### Eight pieces -/

/-- One to four hexadecimal digits. -/
def isAddressPiece (piece : List Char) : Bool :=
  0 < piece.length && piece.length ≤ 4 && piece.all fun c => (digitValue? 16 c).isSome

/-- A decimal byte without leading zeros. -/
def isAddressByte (part : List Char) : Bool :=
  !part.isEmpty && part.length ≤ 3 && part.all Char.isDigit &&
    (part.length = 1 || part.head? ≠ some '0') && (readDigits? 10 0 part).any (· ≤ 255)

/-- The number of pieces of 16 bits in a part of an address of eight pieces; the last ones may be
written as an address of four bytes. -/
def pieceCount? (mayEndInBytes : Bool) (text : List Char) : Option Nat :=
  if text.isEmpty then some 0
  else
    let parts := splitChars ':' text
    let last := parts.getLast?.getD []
    if parts.all isAddressPiece then some parts.length
    else
      let bytes := splitChars '.' last
      if mayEndInBytes && parts.dropLast.all isAddressPiece && bytes.length = 4 &&
          bytes.all isAddressByte then some (parts.length + 1)
      else none

/-- Splits at the first double colon. -/
def splitDoubleColon : List Char → Option (List Char × List Char)
  | ':' :: ':' :: rest => some ([], rest)
  | c :: rest => (splitDoubleColon rest).map fun (before, after) => (c :: before, after)
  | [] => none

/-- An address of eight pieces; one run of zero pieces may be left out. -/
def isLongAddress (text : List Char) : Bool :=
  match splitDoubleColon text with
  | none => pieceCount? true text = some 8
  | some (before, after) =>
    match pieceCount? false before, pieceCount? true after with
    | some m, some n => m + n ≤ 7
    | _, _ => false

end SpecTrace.Host
