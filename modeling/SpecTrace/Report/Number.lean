import SpecTrace.Number.Decimal

/-! The numbers of a report. Integers are exact; other numbers are read with a significand of 64
bits that is scaled by a rounded power of ten, which may miss the nearest binary64 number. -/

namespace SpecTrace.Report

/-- A number as it is read. -/
inductive Number where
  | int (value : Int)
  | float (value : Finite64)
deriving DecidableEq, Repr

/-- The parts of a spelling that determine the number. -/
structure Significand where
  /-- The digits that fit 64 bits. -/
  digits : Nat
  /-- The power of ten that the digits are to be scaled by. -/
  exponent : Int

/-- The largest natural number of 64 bits. -/
def largest : Nat := Nat.pow 2 64 - 1

/-- Reads digits of the whole part until they no longer fit; each further digit adds one to the
exponent. -/
def readWhole : Significand → (full : Bool) → List Char → Significand
  | s, _, [] => s
  | s, full, c :: rest =>
    let next := s.digits * 10 + (c.toNat - '0'.toNat)
    if full || largest < next then readWhole ⟨s.digits, s.exponent + 1⟩ true rest
    else readWhole ⟨next, s.exponent⟩ false rest

/-- Reads digits of the fraction until they no longer fit; further digits are dropped. -/
def readFraction : Significand → List Char → Significand
  | s, [] => s
  | s, c :: rest =>
    let next := s.digits * 10 + (c.toNat - '0'.toNat)
    if largest < next then s else readFraction ⟨next, s.exponent - 1⟩ rest

/-- A power of ten, rounded. -/
def powerOfTen (n : Nat) : Option Finite64 :=
  (Binary64.ofQuotient false (Nat.pow 10 n) 1).finite?

/-- Scales a positive number by a power of ten. Too large results are refused. -/
def scale : Nat → Finite64 → Int → Option Finite64
  | 0, x, _ => some x
  | steps + 1, x, exponent =>
    if exponent.natAbs ≤ 308 then do
      let power ← powerOfTen exponent.natAbs
      if 0 ≤ exponent then (x.mul power).finite? else (x.div power).finite?
    else if x.rank.val = 0 then some x
    else if 0 ≤ exponent then none
    else do
      let power ← powerOfTen 308
      let smaller ← (x.div power).finite?
      scale steps smaller (exponent + 308)

/-- The number with the sign. -/
def signed (negative : Bool) (x : Finite64) : Finite64 :=
  { x with negative }

/-- Scales a significand by its exponent and by a written one, which saturates. -/
def scaled (negative : Bool) (s : Significand) (written : Int) : Option Finite64 := do
  let limit : Int := Nat.pow 2 31
  let saturated := max (-limit) (min (limit - 1) (s.exponent + written))
  let x ← (Binary64.ofQuotient false s.digits 1).finite?
  (scale 8 x saturated).map (signed negative)

/-- The number behind an exponent. Exponents of more than 31 bits give zero or are refused. -/
def withExponent (negative : Bool) (s : Significand) (text : List Char) : Option Finite64 := do
  let (down, digits) := Binary64.splitSign text
  let n ← readDigits? 10 0 digits
  if n < Nat.pow 2 31 then scaled negative s (if down then -(n : Int) else n)
  else if s.digits ≠ 0 ∧ !down then none
  else some (.signedZero negative)

/-- The number that a spelling of the JSON grammar stands for, unless it is out of range. -/
def Number.read? (spelling : List Char) : Option Number := do
  let (negative, text) := Binary64.splitSign spelling
  let whole := text.takeWhile Char.isDigit
  let rest := text.drop whole.length
  let s := readWhole ⟨0, 0⟩ false whole
  match rest with
  | [] =>
    if s.exponent ≠ 0 then (scaled negative s 0).map .float
    else if !negative then some (.int s.digits)
    else if s.digits = 0 ∨ Nat.pow 2 63 < s.digits then
      (Binary64.ofQuotient true s.digits 1).finite?.map .float
    else some (.int (-(s.digits : Int)))
  | '.' :: rest =>
    let fraction := rest.takeWhile Char.isDigit
    let s := readFraction s fraction
    match rest.drop fraction.length with
    | [] => (scaled negative s 0).map .float
    | _ :: exponent => (withExponent negative s exponent).map .float
  | _ :: exponent => (withExponent negative s exponent).map .float

/-- The nearest binary64 number. -/
def Number.toFinite64? : Number → Option Finite64
  | .int value => (Binary64.ofInt value).finite?
  | .float value => some value

end SpecTrace.Report
