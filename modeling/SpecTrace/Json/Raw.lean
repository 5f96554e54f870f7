import SpecTrace.Document.JsonText
import SpecTrace.Json.Value

/-! JSON as written: numbers keep their spelling, members may repeat a key, and a string may hold
surrogates that form no character. -/

namespace SpecTrace

/-- A JSON value as written. -/
inductive RawJson where
  | null
  | bool (value : Bool)
  | number (spelling : List Char)
  /-- None for a string that is no text. -/
  | string (text : Option String)
  | array (items : List RawJson)
  | object (members : List (Option String × RawJson))
deriving Inhabited

namespace RawJson

/-- A part of a string: a character, or a code unit of sixteen bits. -/
inductive StringUnit where
  | char (c : Char)
  | code (unit : Nat)

/-- The characters of the parts of a string; pairs of surrogates form one character each. -/
def joinUnits : List StringUnit → Option (List Char)
  | [] => some []
  | .char c :: rest => (joinUnits rest).map (c :: ·)
  | .code high :: .code low :: rest =>
    if 0xD800 ≤ high ∧ high < 0xDC00 then
      if 0xDC00 ≤ low ∧ low < 0xE000 then
        let code := 0x10000 + (high - 0xD800) * 0x400 + (low - 0xDC00)
        (joinUnits rest).map (Char.ofNat code :: ·)
      else none
    else do
      let c ← charOfCode? high
      (joinUnits (.code low :: rest)).map (c :: ·)
  | .code unit :: rest => do
    let c ← charOfCode? unit
    (joinUnits rest).map (c :: ·)

/-- The parts of a string behind its opening quote, and what follows its closing one. The parts
read so far are in reverse. -/
def readUnits : List StringUnit → List Char → Option (List StringUnit × List Char)
  | _, [] => none
  | read, '"' :: rest => some (read.reverse, rest)
  | read, '\\' :: 'u' :: a :: b :: c :: d :: rest => do
    let unit ← readDigits? 16 0 [a, b, c, d]
    readUnits (.code unit :: read) rest
  | read, '\\' :: letter :: rest => do
    let c ← JsonText.shortEscape? letter
    readUnits (.char c :: read) rest
  | read, c :: rest => if c.toNat < 0x20 then none else readUnits (.char c :: read) rest

/-- A string behind its opening quote. -/
def readString (text : List Char) : Option (Option String × List Char) := do
  let (units, rest) ← readUnits [] text
  some ((joinUnits units).map String.ofList, rest)

/-- Past white space. -/
def skipSpace (text : List Char) : List Char :=
  text.dropWhile JsonText.isSpace

/-- Splits off one or more digits. -/
def splitDigits? (text : List Char) : Option (List Char × List Char) :=
  let digits := text.takeWhile Char.isDigit
  if digits.isEmpty then none else some (digits, text.drop digits.length)

/-- Splits off the whole part of a number: a zero, or digits that start with another one. -/
def splitWhole? (text : List Char) : Option (List Char × List Char) :=
  match text with
  | '0' :: rest => if rest.head?.any Char.isDigit then none else some (['0'], rest)
  | _ => splitDigits? text

/-- Splits off an optional point with digits. -/
def splitFraction? (text : List Char) : Option (List Char × List Char) :=
  match text with
  | '.' :: rest => (splitDigits? rest).map fun (digits, rest) => ('.' :: digits, rest)
  | _ => some ([], text)

/-- Splits off an optional exponent. -/
def splitExponent? (text : List Char) : Option (List Char × List Char) :=
  match text with
  | [] => some ([], [])
  | e :: rest =>
    if e = 'e' ∨ e = 'E' then
      let sign := rest.takeWhile fun c => c = '+' || c = '-'
      if 1 < sign.length then none
      else
        (splitDigits? (rest.drop sign.length)).map fun (digits, rest) =>
          (e :: sign ++ digits, rest)
    else some ([], text)

/-- The spelling of a number and what follows it. -/
def readNumber (text : List Char) : Option (RawJson × List Char) := do
  let sign := text.takeWhile (· = '-')
  if 1 < sign.length then none
  else
    let (whole, rest) ← splitWhole? (text.drop sign.length)
    let (fraction, rest) ← splitFraction? rest
    let (exponent, rest) ← splitExponent? rest
    some (.number (sign ++ whole ++ fraction ++ exponent), rest)

/-- What follows a word. -/
def readWord (word : List Char) (value : RawJson) (text : List Char) :
    Option (RawJson × List Char) :=
  if word.isPrefixOf text then some (value, text.drop word.length) else none

/-- The items of an array, each read by `value`, up to the closing bracket. -/
def readItems (value : List Char → Option (RawJson × List Char)) :
    Nat → List RawJson → List Char → Option (RawJson × List Char)
  | 0, _, _ => none
  | bound + 1, read, text => do
    let (item, rest) ← value (skipSpace text)
    match skipSpace rest with
    | ',' :: rest => readItems value bound (item :: read) rest
    | ']' :: rest => some (.array (item :: read).reverse, rest)
    | _ => none

/-- The members of an object, each value read by `value`, up to the closing brace. -/
def readMembers (value : List Char → Option (RawJson × List Char)) :
    Nat → List (Option String × RawJson) → List Char → Option (RawJson × List Char)
  | 0, _, _ => none
  | bound + 1, read, text => do
    match skipSpace text with
    | '"' :: rest =>
      let (key, rest) ← readString rest
      match skipSpace rest with
      | ':' :: rest =>
        let (child, rest) ← value (skipSpace rest)
        match skipSpace rest with
        | ',' :: rest => readMembers value bound ((key, child) :: read) rest
        | '\x7d' :: rest => some (.object ((key, child) :: read).reverse, rest)
        | _ => none
      | _ => none
    | _ => none

/-- A value, nested no deeper than a bound. -/
def readValue (length : Nat) : Nat → List Char → Option (RawJson × List Char)
  | 0, _ => none
  | depth + 1, text =>
    match text with
    | [] => none
    | '"' :: rest => (readString rest).map fun (text, rest) => (.string text, rest)
    | '[' :: rest =>
      match skipSpace rest with
      | ']' :: rest => some (.array [], rest)
      | rest => readItems (readValue length depth) length [] rest
    | '\x7b' :: rest =>
      match skipSpace rest with
      | '\x7d' :: rest => some (.object [], rest)
      | rest => readMembers (readValue length depth) length [] rest
    | 't' :: _ => readWord ['t', 'r', 'u', 'e'] (.bool true) text
    | 'f' :: _ => readWord ['f', 'a', 'l', 's', 'e'] (.bool false) text
    | 'n' :: _ => readWord ['n', 'u', 'l', 'l'] .null text
    | _ => readNumber text

/-- Reads a text that holds one value. -/
def read? (text : List Char) : Option RawJson := do
  let (value, rest) ← readValue (text.length + 1) (text.length + 1) (skipSpace text)
  if (skipSpace rest).isEmpty then some value else none

end RawJson

end SpecTrace
