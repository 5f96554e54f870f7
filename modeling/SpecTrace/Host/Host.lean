import SpecTrace.Host.Address
import SpecTrace.Host.Composition
import SpecTrace.Host.Direction
import SpecTrace.Host.Joining
import SpecTrace.Host.Mapping.Forbidden
import SpecTrace.Host.Mapping.Letters
import SpecTrace.Host.Mapping.Sequences
import SpecTrace.Host.Mapping.Shifts
import SpecTrace.Path.Components
import SpecTrace.Text.Percent
import SpecTrace.Text.Punycode

/-! Hosts of URLs: addresses, and domains, which are labels of letters, digits and other characters
with dots between them. Variants of a character, such as capital letters, stand for that one. -/

namespace SpecTrace.Host

/-! ### Characters -/

/-- Characters that are left out. -/
def ignored : List (Nat × Nat) :=
  [(0xAD, 0xAD), (0x34F, 0x34F), (0x115F, 0x1160), (0x17B4, 0x17B5), (0x180B, 0x180F),
    (0x200B, 0x200B), (0x2060, 0x2064), (0x206A, 0x206F), (0x3164, 0x3164), (0xFE00, 0xFE0F),
    (0xFEFF, 0xFEFF), (0xFFA0, 0xFFA0), (0x1BCA0, 0x1BCA3), (0x1D173, 0x1D17A),
    (0xE0100, 0xE01EF)]

/-- The characters that a host holds in place of one; none if no host holds the character. -/
def image? (c : Char) : Option (List Char) :=
  let n := c.toNat
  if n < 0x80 then some [c.toLower]
  else if inRanges ignored c then some []
  else
    match (shifted? n).or (letter? n) with
    | some target => some [Char.ofNat target]
    | none =>
      match sequence? n with
      | some targets => some (targets.map Char.ofNat)
      | none => if isForbiddenCharacter c then none else some [c]

/-- The character stands for itself. -/
def isPlain (c : Char) : Bool :=
  image? c = some [c]

/-! ### Domains -/

/-- A character that no domain holds although it stands for itself. -/
def isForbiddenInDomain (c : Char) : Bool :=
  c.toNat ≤ 0x20 || c = '\x7f' || "%#/:<>?@[\\]^|".toList.contains c

/-- A label does not begin with a mark, and its joiners stand where they may. -/
def isLabel (label : List Char) : Bool :=
  !label.head?.any isMark && joinersFit [] label

/-- The label that a spelling stands for; behind `xn--` other characters are spelled in ASCII. A
spelling of unusual length stands for none. -/
def label? (spelled : List Char) : Option (List Char) :=
  if spelled.take 4 = "xn--".toList then
    let code := spelled.drop 4
    if code.all (·.toNat < 0x80) && code.length ≤ 2000 && spelled.getLast? ≠ some '-' then
      match Punycode.decode? code with
      | some label =>
        if label.all isPlain && composed label = label && isLabel label then some label else none
      | none => none
    else none
  else if isLabel spelled && (spelled.all (·.toNat < 0x80) || spelled.length ≤ 1000) then
    some spelled
  else none

/-- The domain that a text spells, with its labels as they are shown. -/
def domain? (text : List Char) : Option (List Char) := do
  let images ← text.mapM image?
  let spelled := composed images.flatten
  if spelled.any isForbiddenInDomain then none
  else
    let labels ← (splitChars '.' spelled).mapM label?
    if labels.any isBidirectional && !labels.all hasFixedOrder then none
    else some (['.'].intercalate labels)

/-! ### Hosts -/

/-- A character that no host of a URL without a known scheme holds. -/
def isForbiddenInOpaque (c : Char) : Bool :=
  "\x00\t\n\r #/:<>?@[\\]^|".toList.contains c

/-- The host that a text spells: an address or, in a URL with a known scheme, a domain. -/
def ofText? (isSpecial : Bool) (text : List Char) : Option (List Char) :=
  if text.head? = some '[' then
    if text.getLast? = some ']' ∧ isLongAddress text.tail.dropLast then some text else none
  else if isSpecial then do
    let domain ← domain? (← (Utf8.decode (Percent.decode text)).mapM id)
    if domain.isEmpty then none
    else if endsInNumber domain && !isAddress domain then none
    else some domain
  else if text.any isForbiddenInOpaque then none
  else some text

end SpecTrace.Host
