/-! Punycode: texts spelled with letters, digits and hyphens of ASCII. What is left after the last
hyphen says where to put which other characters into what stands before it. -/

namespace SpecTrace.Punycode

/-- Numbers stay below this. -/
def numberLimit : Nat := Nat.pow 2 32

/-- The value of a digit: letters before numerals. -/
def digitValue? (c : Char) : Option Nat :=
  if 'a' ≤ c ∧ c ≤ 'z' then some (c.toNat - 'a'.toNat)
  else if 'A' ≤ c ∧ c ≤ 'Z' then some (c.toNat - 'A'.toNat)
  else if '0' ≤ c ∧ c ≤ '9' then some (c.toNat - '0'.toNat + 26)
  else none

/-- A digit below this is the last one of its number; `place` counts its places from one on. -/
def threshold (bias place : Nat) : Nat :=
  min 26 (max 1 (36 * place - bias))

/-- Reads a number from its lowest digit on, added to a number. Gives what is behind it, too. -/
def readNumber? (bias : Nat) :
    (place weight value : Nat) → List Char → Option (Nat × List Char)
  | _, _, _, [] => none
  | place, weight, value, c :: rest => do
    let digit ← digitValue? c
    let value := value + digit * weight
    let low := threshold bias place
    if numberLimit ≤ value then none
    else if digit < low then some (value, rest)
    else if numberLimit ≤ weight * (36 - low) then none
    else readNumber? bias (place + 1) (weight * (36 - low)) value rest

/-- How often a number is divided until it is small, and what is then left of it. -/
def reduce : (bound : Nat) → Nat → Nat × Nat
  | 0, n => (0, n)
  | bound + 1, n =>
    if n ≤ 455 then (0, n)
    else
      let (count, left) := reduce bound (n / 35)
      (count + 1, left)

/-- The bias for the next number, by the last one and the length of the text. -/
def nextBias (isFirst : Bool) (number length : Nat) : Nat :=
  let damped := if isFirst then number / 700 else number / 2
  -- A number below the limit is small after seven divisions.
  let (count, left) := reduce 7 (damped + damped / length)
  36 * count + 36 * left / (left + 38)

/-- Puts characters into a text. A number counts steps from the last insertion on: each step goes
to the next place, or to the first one with the next character. -/
def insertAll? : (bound bias code place : Nat) → (text digits : List Char) → Option (List Char)
  | 0, _, _, _, _, _ => none
  | _ + 1, _, _, _, text, [] => some text
  | bound + 1, bias, code, place, text, digits => do
    let (steps, rest) ← readNumber? bias 1 1 place digits
    let length := text.length + 1
    let code := code + steps / length
    let index := steps % length
    if code.isValidChar then
      insertAll? bound (nextBias (place = 0) (steps - place) length) code (index + 1)
        (text.take index ++ Char.ofNat code :: text.drop index) rest
    else none

/-- The text that is spelled. -/
def decode? (spelled : List Char) : Option (List Char) :=
  let digits := (spelled.reverse.takeWhile (· ≠ '-')).reverse
  let before := spelled.take (spelled.length - digits.length)
  -- A hyphen in front of everything separates nothing.
  if before = ['-'] then none
  else insertAll? (spelled.length + 1) 72 0x80 0 before.dropLast digits

end SpecTrace.Punycode
