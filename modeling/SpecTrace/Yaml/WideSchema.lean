import SpecTrace.Yaml.CoreSchema

/-! Plain scalars for readers that take more spellings for numbers than the core schema. -/

namespace SpecTrace

/-- The radix that a letter behind a zero selects. -/
def markedRadix? : Char → Option Nat
  | 'x' => some 16
  | 'o' => some 8
  | 'b' => some 2
  | _ => none

/-- A natural number behind the mark of its radix. -/
def readMarked? : List Char → Option Nat
  | '0' :: mark :: digit :: digits =>
    (markedRadix? mark).bind fun radix => readDigits? radix 0 (digit :: digits)
  | _ => none

/-- Several digits of which the first is zero, with an optional sign. -/
def isPaddedInteger (text : List Char) : Bool :=
  let digits := (Binary64.splitSign text).2
  decide (1 < digits.length) && digits.head? = some '0' && digits.all Char.isDigit

/-- The sign and the magnitude of an integer of at most 128 bits. -/
def readWideInteger? (text : List Char) : Option (Bool × Nat) := do
  let (negative, unsigned) := Binary64.splitSign text
  let isDecimal := !isPaddedInteger text && !unsigned.isEmpty
  let decimal? := if isDecimal then readDigits? 10 0 unsigned else none
  let magnitude ← readMarked? unsigned <|> decimal?
  -- Below zero the last of the bits is taken by the sign.
  let fits := if negative then magnitude ≤ Nat.pow 2 127 else magnitude < Nat.pow 2 128
  if fits then some (negative, magnitude) else none

/-- The spellings of values that are infinite or no number. -/
def specialFloats : List (String × Binary64) :=
  [(".inf", .infinite false), (".Inf", .infinite false), (".INF", .infinite false),
    ("+.inf", .infinite false), ("+.Inf", .infinite false), ("+.INF", .infinite false),
    ("-.inf", .infinite true), ("-.Inf", .infinite true), ("-.INF", .infinite true),
    (".nan", .nan), (".NaN", .nan), (".NAN", .nan)]

/-- The binary64 value that a text spells. -/
def readWideFloat? (text : List Char) : Option Binary64 :=
  match specialFloats.find? fun special => special.1.toList = text with
  | some (_, value) => some value
  | none =>
    if matchesFloat text then ((Binary64.read? text).bind Binary64.finite?).map .finite else none

/-- A plain text that stands for a number. -/
def isWideNumber (text : List Char) : Bool :=
  (readWideInteger? text).isSome || (!isPaddedInteger text && (readWideFloat? text).isSome)

/-- A plain text that stands for itself and not for null, a truth value or a number. -/
def isWideString (text : List Char) : Bool :=
  match resolvePlain text with
  | .null => false
  | .bool _ => false
  | _ => !isWideNumber text

end SpecTrace
