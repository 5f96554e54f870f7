import SpecTrace.Document.Node

/-! How plain scalars resolve: the core schema of YAML 1.2. -/

namespace SpecTrace

/-- Digits with an optional sign. -/
def matchesInteger (text : List Char) : Bool :=
  let digits := (Binary64.splitSign text).2
  !digits.isEmpty && digits.all Char.isDigit

/-- Digits with an optional point, sign and exponent. -/
def matchesFloat (text : List Char) : Bool :=
  let unsigned := (Binary64.splitSign text).2
  let whole := unsigned.takeWhile Char.isDigit
  let afterWhole := unsigned.dropWhile Char.isDigit
  let fraction := afterWhole.tail.takeWhile Char.isDigit
  let afterMantissa :=
    if afterWhole.head? = some '.' then afterWhole.tail.dropWhile Char.isDigit else afterWhole
  let mantissa := !whole.isEmpty || (afterWhole.head? = some '.' && !fraction.isEmpty)
  let exponent :=
    match afterMantissa with
    | [] => true
    | e :: text => (e = 'e' || e = 'E') && matchesInteger text
  mantissa && exponent

/-- The finite binary64 number that a decimal text spells. -/
def readFloat? (text : List Char) : Option Scalar :=
  ((Binary64.read? text).bind Binary64.finite?).map fun x => .number (.float x)

/-- An integer of 64 bits with a sign, in the radix that a mark in front selects. -/
def readRadix? (mark : List Char) (radix : Nat) (text : List Char) : Option Scalar :=
  if mark.isPrefixOf text then
    match readInteger? radix (text.drop mark.length) with
    | some i => if inInt64 i then some (.number (.int i)) else none
    | none => none
  else none

/-- A decimal integer; one that no 64 bits hold is read as a binary64 number. -/
def readDecimal? (text : List Char) : Option Scalar :=
  if matchesInteger text then
    (JsonNumber.read? (if text.head? = some '+' then text.tail else text)).map Scalar.number
  else none

/-- The scalar that a plain text stands for. -/
def resolvePlain (text : List Char) : Scalar :=
  let word := String.ofList text
  if word ∈ ["", "~", "null", "Null", "NULL"] then .null
  else if word ∈ ["true", "True", "TRUE"] then .bool true
  else if word ∈ ["false", "False", "FALSE"] then .bool false
  else
    let number :=
      readDecimal? text <|> readRadix? ['0', 'o'] 8 text <|> readRadix? ['0', 'x'] 16 text <|>
        (if matchesFloat text then readFloat? text else none)
    number.getD (.string word)

end SpecTrace
