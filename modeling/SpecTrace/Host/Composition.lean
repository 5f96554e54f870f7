import SpecTrace.Host.CombiningClass
import SpecTrace.Host.Composite

/-! One spelling for texts that look the same: characters are composed with the marks behind them,
and marks that compose with nothing stand in the order of their classes. -/

namespace SpecTrace.Host

/-! ### Syllables of Hangul -/

/-- The first syllable; the others follow in the order of their initials, vowels and finals. -/
def firstSyllable : Nat := 0xAC00

/-- The number of syllables with one initial and vowel: one without and 27 with a final. -/
def finalCount : Nat := 28

/-- The number of syllables with one initial. -/
def syllablesPerInitial : Nat := 21 * finalCount

/-- The number of syllables. -/
def syllableCount : Nat := 19 * syllablesPerInitial

/-- The syllable of an initial and a vowel, or with a final behind such a syllable. -/
def syllable? (first second : Nat) : Option Nat :=
  if 0x1100 ≤ first ∧ first < 0x1100 + 19 ∧ 0x1161 ≤ second ∧ second < 0x1161 + 21 then
    some (firstSyllable + (first - 0x1100) * syllablesPerInitial + (second - 0x1161) * finalCount)
  else if firstSyllable ≤ first ∧ first < firstSyllable + syllableCount ∧
      (first - firstSyllable) % finalCount = 0 ∧ 0x11A8 ≤ second ∧ second < 0x11A7 + finalCount then
    some (first + (second - 0x11A7))
  else none

/-- The two characters that make a syllable. -/
def syllableParts? (syllable : Nat) : Option (Nat × Nat) :=
  if firstSyllable ≤ syllable ∧ syllable < firstSyllable + syllableCount then
    let index := syllable - firstSyllable
    if index % finalCount = 0 then
      some (0x1100 + index / syllablesPerInitial,
        0x1161 + index % syllablesPerInitial / finalCount)
    else some (syllable - index % finalCount, 0x11A7 + index % finalCount)
  else none

/-! ### Composition -/

/-- The character that is the same as two in a row. -/
def compose? (first second : Char) : Option Char :=
  let composite? := (compositesWith second.toNat).find? fun (key, _) => key = first.toNat
  ((syllable? first.toNat second.toNat).or (composite?.map (·.2))).map Char.ofNat

/-- The characters that a character is the same as. Each step splits off the last one, and no
character has more steps than are given here. -/
def decomposition : (steps : Nat) → Nat → List Char
  | 0, n => [Char.ofNat n]
  | steps + 1, n =>
    match (syllableParts? n).or (compositeParts? n) with
    | some (first, second) => decomposition steps first ++ [Char.ofNat second]
    | none => [Char.ofNat n]

/-- The text with every character decomposed. -/
def decomposed (text : List Char) : List Char :=
  text.flatMap fun c => if c.toNat < 0x80 then [c] else decomposition 3 c.toNat

/-- Puts a character in front of a text, but a mark behind the marks of lower classes. -/
def insertMark (c : Char) : List Char → List Char
  | [] => [c]
  | d :: rest =>
    if 0 < combiningClass d ∧ combiningClass d < combiningClass c then d :: insertMark c rest
    else c :: d :: rest

/-- The text with marks in the order of their classes. -/
def ordered (text : List Char) : List Char :=
  text.foldr insertMark []

/-- Composes a character with what follows it, except with a mark that one of the same or a higher
class stands before. -/
def composeWith (base : Char) : (marks : List Char) → List Char → List Char
  | marks, [] => base :: marks
  | marks, c :: rest =>
    let isFree := marks.getLast?.all fun mark => combiningClass mark < combiningClass c
    match if isFree then compose? base c else none with
    | some whole => composeWith whole marks rest
    | none =>
      if combiningClass c = 0 then base :: marks ++ composeWith c [] rest
      else composeWith base (marks ++ [c]) rest

/-- Composes from the first character on that is not ordered by its class. -/
def composeOrdered : List Char → List Char
  | [] => []
  | c :: rest => if combiningClass c = 0 then composeWith c [] rest else c :: composeOrdered rest

/-- The composed spelling of a text. -/
def composed (text : List Char) : List Char :=
  composeOrdered (ordered (decomposed text))

end SpecTrace.Host
