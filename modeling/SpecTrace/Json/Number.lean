import SpecTrace.Number.Decimal

/-! The numbers of a JSON document and how they are spelled. -/

namespace SpecTrace

/-- A number of a document: an integer of 64 bits, signed or not, or a finite binary64. -/
inductive JsonNumber where
  | int (value : Int)
  | float (value : Finite64)
deriving DecidableEq, Repr

/-- An integer in decimal. -/
def decimalInteger : Int → List Char
  | .ofNat n => decimalDigits n
  | .negSucc n => '-' :: decimalDigits (n + 1)

/-- The text of a positive decimal with a point or an exponent: positional from `10 ^ -5` up to
below `10 ^ 16`, in exponent notation outside. -/
def Decimal.text (d : Decimal) : List Char :=
  let digits := decimalDigits d.digits
  let count := digits.length
  let point : Int := count + d.exponent
  if 0 ≤ d.exponent ∧ point ≤ 16 then
    digits ++ List.replicate d.exponent.toNat '0' ++ ['.', '0']
  else if 0 < point ∧ point ≤ 16 then
    digits.take point.toNat ++ '.' :: digits.drop point.toNat
  else if -5 < point ∧ point ≤ 0 then
    '0' :: '.' :: List.replicate (-point).toNat '0' ++ digits
  else
    let exponent := point - 1
    let mark := if exponent < 0 then ['e'] else ['e', '+']
    let mantissa := if count = 1 then digits else digits.take 1 ++ '.' :: digits.drop 1
    mantissa ++ mark ++ decimalInteger exponent

/-- The shortest text that reads back as the number. -/
def Finite64.text (x : Finite64) : List Char :=
  let sign := if x.negative then ['-'] else []
  if x.rank.val = 0 then sign ++ ['0', '.', '0'] else sign ++ x.shortestDecimal.text

namespace JsonNumber

/-- Reads a decimal text: an integer if it fits 64 bits with or without a sign, otherwise the
nearest binary64 number if that is finite. -/
def read? (text : List Char) : Option JsonNumber :=
  let float := ((Binary64.read? text).bind Binary64.finite?).map JsonNumber.float
  match readInteger? 10 text with
  | some i => if -Nat.pow 2 63 ≤ i ∧ i < Nat.pow 2 64 then some (.int i) else float
  | none => float

/-- The nearest finite binary64 number. -/
def toFinite64? : JsonNumber → Option Finite64
  | .int value => (Binary64.ofInt value).finite?
  | .float value => some value

/-- The text of a number. -/
def text : JsonNumber → List Char
  | .int value => decimalInteger value
  | .float value => value.text

end JsonNumber

end SpecTrace
