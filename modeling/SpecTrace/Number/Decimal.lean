import SpecTrace.Number.Binary64

/-! Decimal texts of numbers: reading integers in a radix, reading decimals as binary64, and the
shortest decimal that reads back. -/

namespace SpecTrace

/-- The value of a digit in a radix of up to sixteen. -/
def digitValue? (radix : Nat) (c : Char) : Option Nat :=
  let value :=
    if '0' ≤ c ∧ c ≤ '9' then c.toNat - '0'.toNat
    else if 'a' ≤ c ∧ c ≤ 'f' then c.toNat - 'a'.toNat + 10
    else if 'A' ≤ c ∧ c ≤ 'F' then c.toNat - 'A'.toNat + 10
    else 16
  if value < radix then some value else none

/-- Reads digits after those already read. -/
def readDigits? (radix : Nat) : Nat → List Char → Option Nat
  | value, [] => some value
  | value, c :: rest => do
    let digit ← digitValue? radix c
    readDigits? radix (value * radix + digit) rest

/-- Reads one or more digits, with an optional plus sign in front. -/
def readNatural? (radix : Nat) : List Char → Option Nat
  | [] => none
  | '+' :: [] => none
  | '+' :: digits => readDigits? radix 0 digits
  | digits => readDigits? radix 0 digits

/-- Reads one or more digits, with an optional sign in front. -/
def readInteger? (radix : Nat) : List Char → Option Int
  | '-' :: [] => none
  | '-' :: digits => (readDigits? radix 0 digits).map fun n => -(n : Int)
  | text => (readNatural? radix text).map Int.ofNat

/-- The integers of 64 bits with a sign. -/
def inInt64 (i : Int) : Bool :=
  decide (-Nat.pow 2 63 ≤ i) && decide (i < Nat.pow 2 63)

/-- The digits of a natural number in the decimal system. -/
def decimalDigits (n : Nat) : List Char :=
  Nat.toDigits 10 n

namespace Binary64

/-- The value nearest to `digits * 10 ^ exponent`. -/
def ofDecimal (negative : Bool) (digits : Nat) (exponent : Int) : Binary64 :=
  -- Far outside the range only the side matters, and the powers would be huge.
  let magnitude := (decimalDigits digits).length + exponent
  if digits = 0 ∨ magnitude < -400 then .finite (.signedZero negative)
  else if 400 < magnitude then .infinite negative
  else if 0 ≤ exponent then ofQuotient negative (digits * Nat.pow 10 exponent.toNat) 1
  else ofQuotient negative digits (Nat.pow 10 (-exponent).toNat)

/-- Splits off an optional sign. -/
def splitSign : List Char → Bool × List Char
  | '-' :: rest => (true, rest)
  | '+' :: rest => (false, rest)
  | rest => (false, rest)

/-- The exponent part of a decimal text: nothing, or `e` with a signed integer. -/
def readExponent? : List Char → Option Int
  | [] => some 0
  | e :: text =>
    if e = 'e' ∨ e = 'E' then
      match splitSign text with
      | (_, []) => none
      | (negative, digits) =>
        (readDigits? 10 0 digits).map fun n => if negative then -(n : Int) else n
    else none

/-- Reads digits with an optional point and an optional exponent. -/
def readMagnitude? (negative : Bool) (text : List Char) : Option Binary64 :=
  let whole := text.takeWhile Char.isDigit
  let afterWhole := text.drop whole.length
  let fraction :=
    if afterWhole.head? = some '.' then afterWhole.tail.takeWhile Char.isDigit else []
  let afterFraction :=
    if afterWhole.head? = some '.' then afterWhole.drop (fraction.length + 1) else afterWhole
  if whole.isEmpty && fraction.isEmpty then none
  else do
    let exponent ← readExponent? afterFraction
    let digits ← readDigits? 10 0 (whole ++ fraction)
    pure (ofDecimal negative digits (exponent - fraction.length))

/-- Reads the decimal spelling of a value, or the words for infinity and not-a-number in any
case, with an optional sign. -/
def read? (text : List Char) : Option Binary64 :=
  let (negative, magnitude) := splitSign text
  let word := magnitude.map Char.toLower
  if word = "inf".toList ∨ word = "infinity".toList then some (.infinite negative)
  else if word = "nan".toList then some .nan
  else readMagnitude? negative magnitude

end Binary64

/-- A positive decimal, `digits * 10 ^ exponent`. -/
structure Decimal where
  digits : Nat
  exponent : Int
deriving DecidableEq, Repr

namespace Decimal

/-- The magnitude nearest to the decimal. -/
def toBinary64 (d : Decimal) : Binary64 :=
  Binary64.ofDecimal false d.digits d.exponent

/-- Moves zeros at the end of the digits into the exponent. -/
def trimZeros : Nat → Decimal → Decimal
  | 0, d => d
  | fuel + 1, d =>
    if d.digits % 10 = 0 ∧ d.digits ≠ 0 then trimZeros fuel ⟨d.digits / 10, d.exponent + 1⟩ else d

end Decimal

namespace Finite64

/-- The number of digits before the decimal point; zero or less counts the zeros after it. -/
def pointPosition (x : Finite64) : Int :=
  if Nat.pow 2 1074 ≤ x.units then (decimalDigits (x.units / Nat.pow 2 1074)).length
  else 1 - ((decimalDigits (Nat.pow 2 1074 / x.units)).length : Int)

/-- Of the two decimals with the given exponent around a positive magnitude, the nearer one that
reads back as the magnitude; of two equally near ones the one with even digits. -/
def candidate? (x : Finite64) (exponent : Int) : Option Decimal :=
  let numerator := x.units * Nat.pow 10 (-exponent).toNat
  let denominator := Nat.pow 2 1074 * Nat.pow 10 exponent.toNat
  let below := numerator / denominator
  let remainder := numerator % denominator
  let readsBack (d : Decimal) : Bool := d.toBinary64 = .finite x.abs
  let lower : Decimal := ⟨below, exponent⟩
  let upper : Decimal := ⟨below + 1, exponent⟩
  let isLowerNearer :=
    2 * remainder < denominator || (2 * remainder = denominator && below % 2 = 0)
  let (nearer, farther) := if isLowerNearer then (lower, upper) else (upper, lower)
  if readsBack nearer then some nearer
  else if readsBack farther then some farther
  else none

/-- All digits of a magnitude: every magnitude is a whole number of units `2 ^ -1074`. -/
def exactDecimal (x : Finite64) : Decimal :=
  ⟨x.units * Nat.pow 5 1074, -1074⟩

/-- The decimal with the fewest digits that reads back as a positive magnitude, and the nearest
of those. -/
def shortestDecimal (x : Finite64) : Decimal :=
  let point := x.pointPosition
  -- Seventeen digits always suffice.
  match (List.range 17).findSome? fun (i : Nat) => x.candidate? (point - ((i : Int) + 1)) with
  | some d => d.trimZeros 20
  | none => x.exactDecimal

end Finite64

end SpecTrace
