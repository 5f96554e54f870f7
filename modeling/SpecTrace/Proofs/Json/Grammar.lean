import Mathlib.Algebra.Group.Int.Defs
import SpecTrace.Document.JsonText

/-! The grammar of JSON by RFC 8259, in which every node knows the bytes it was written in. -/

namespace SpecTrace.Grammar

/-- White space: spaces, tabs, line feeds and carriage returns. -/
def IsSpace (text : List Char) : Prop :=
  ∀ c ∈ text, c = ' ' ∨ c = '\t' ∨ c = '\n' ∨ c = '\r'

/-! ### Numbers -/

/-- One or more digits. -/
def IsDigits (text : List Char) : Prop :=
  text ≠ [] ∧ ∀ c ∈ text, c.isDigit = true

/-- The number that digits spell. -/
def valueOfDigits (digits : List Char) : Nat :=
  digits.foldl (fun value c => value * 10 + (c.toNat - '0'.toNat)) 0

/-- A number taken apart. -/
structure Parts where
  negative : Bool
  /-- The digits before the point. -/
  whole : List Char
  /-- The digits behind the point; without a point there are none. -/
  fraction : List Char
  /-- The exponent, if one was written. -/
  exponent : Option Int

/-- A minus, or nothing. -/
inductive Minus : List Char → Bool → Prop
  | absent : Minus [] false
  | present : Minus ['-'] true

/-- A lone zero, or digits that do not begin with one. -/
inductive Whole : List Char → Prop
  | zero : Whole ['0']
  | positive {first : Char} {rest : List Char} (leads : first ≠ '0')
    (digits : IsDigits (first :: rest)) : Whole (first :: rest)

/-- A point with digits, or nothing. -/
inductive Fraction : List Char → List Char → Prop
  | absent : Fraction [] []
  | present {digits : List Char} (spelled : IsDigits digits) : Fraction ('.' :: digits) digits

/-- The sign of an exponent, which may be left out. -/
inductive Sign : List Char → Bool → Prop
  | absent : Sign [] false
  | plus : Sign ['+'] false
  | minus : Sign ['-'] true

/-- A mark with the digits of an exponent, or nothing. -/
inductive Exponent : List Char → Option Int → Prop
  | absent : Exponent [] none
  | present {mark : Char} {sign digits : List Char} {negative : Bool}
    (marks : mark = 'e' ∨ mark = 'E') (signed : Sign sign negative) (spelled : IsDigits digits) :
    Exponent (mark :: (sign ++ digits))
      (some (if negative then -(valueOfDigits digits : Int) else valueOfDigits digits))

/-- A number and its parts. -/
inductive Number : List Char → Parts → Prop
  | mk {minus whole point exponent fraction : List Char} {negative : Bool} {power : Option Int}
    (sign : Minus minus negative) (digits : Whole whole) (behind : Fraction point fraction)
    (scale : Exponent exponent power) :
    Number (minus ++ (whole ++ (point ++ exponent))) ⟨negative, whole, fraction, power⟩

namespace Parts

/-- The whole part with its sign. -/
def integer (p : Parts) : Int :=
  if p.negative then -(valueOfDigits p.whole : Int) else valueOfDigits p.whole

/-- There is neither a point nor an exponent, and 64 bits hold the integer, with a sign or
without. -/
def IsInteger (p : Parts) : Prop :=
  p.fraction = [] ∧ p.exponent = none ∧ -2 ^ 63 ≤ p.integer ∧ p.integer < 2 ^ 64

instance (p : Parts) : Decidable p.IsInteger :=
  inferInstanceAs (Decidable (_ ∧ _ ∧ _ ∧ _))

/-- The nearest binary64 value. -/
def binary (p : Parts) : Binary64 :=
  .ofDecimal p.negative (valueOfDigits (p.whole ++ p.fraction))
    (p.exponent.getD 0 - p.fraction.length)

/-- The value of a number: an integer of 64 bits, or else the nearest binary64 number. There is
none for a number beyond the range of binary64. -/
def value? (p : Parts) : Option JsonNumber :=
  if p.IsInteger then some (.int p.integer) else p.binary.finite?.map .float

end Parts

/-! ### Strings -/

/-- The characters that a single letter or mark behind a backslash stands for. -/
def escapes : List (Char × Char) :=
  [('"', '"'), ('\\', '\\'), ('/', '/'), ('b', '\x08'), ('f', '\x0c'), ('n', '\n'), ('r', '\r'),
    ('t', '\t')]

/-- A code unit that is one half of a pair. -/
def isSurrogate (unit : Nat) : Bool :=
  decide (0xD800 ≤ unit) && decide (unit < 0xE000)

/-- The code of the character that a high and a low surrogate form. -/
def pairCode (high low : Nat) : Nat :=
  0x10000 + (high - 0xD800) * 0x400 + (low - 0xDC00)

/-- Four hexadecimal digits. -/
def hexUnit? (digits : List Char) : Option Nat :=
  readDigits? 16 0 digits

/-- Code units that stand for a character alone. -/
def loneUnit? (unit? : List Char → Option Nat) (digits : List Char) : Option Nat :=
  (unit? digits).filter fun unit => !isSurrogate unit

variable (unit? : List Char → Option Nat)

/-- The characters between the quotes of a string, and those they stand for. The digits behind
`\u` are read by `unit?`; the two halves of a surrogate pair follow one another. -/
inductive Characters : List Char → List Char → Prop
  | nil : Characters [] []
  | plain {c : Char} {text chars : List Char} (graphic : 0x20 ≤ c.toNat) (notQuote : c ≠ '"')
    (notEscape : c ≠ '\\') (more : Characters text chars) : Characters (c :: text) (c :: chars)
  | escape {letter c : Char} {text chars : List Char} (known : (letter, c) ∈ escapes)
    (more : Characters text chars) : Characters ('\\' :: letter :: text) (c :: chars)
  | unit {a b c d : Char} {text chars : List Char} {unit : Nat}
    (digits : unit? [a, b, c, d] = some unit) (alone : isSurrogate unit = false)
    (more : Characters text chars) :
    Characters ('\\' :: 'u' :: a :: b :: c :: d :: text) (Char.ofNat unit :: chars)
  | pair {a b c d a' b' c' d' : Char} {text chars : List Char} {high low : Nat}
    (first : unit? [a, b, c, d] = some high) (isHigh : 0xD800 ≤ high ∧ high < 0xDC00)
    (second : unit? [a', b', c', d'] = some low) (isLow : 0xDC00 ≤ low ∧ low < 0xE000)
    (more : Characters text chars) :
    Characters
      ('\\' :: 'u' :: a :: b :: c :: d :: '\\' :: 'u' :: a' :: b' :: c' :: d' :: text)
      (Char.ofNat (pairCode high low) :: chars)

/-- A string in quotes. -/
inductive Quoted : List Char → String → Prop
  | mk {text chars : List Char} (inside : Characters unit? text chars) :
    Quoted ('"' :: (text ++ ['"'])) (String.ofList chars)

/-! ### Values -/

/-- The words that stand for a value. -/
def words : List (List Char × Scalar) :=
  [(['t', 'r', 'u', 'e'], .bool true), (['f', 'a', 'l', 's', 'e'], .bool false),
    (['n', 'u', 'l', 'l'], .null)]

/-- A value without children. -/
inductive Leaf : List Char → Scalar → Prop
  | word {text : List Char} {value : Scalar} (known : (text, value) ∈ words) : Leaf text value
  | number {text : List Char} {parts : Parts} {value : JsonNumber} (spelled : Number text parts)
    (inRange : parts.value? = some value) : Leaf text (.number value)
  | string {text : List Char} {value : String} (quoted : Quoted unit? text value) :
    Leaf text (.string value)

mutual

/-- A value that is written at an offset. -/
inductive Value : Nat → List Char → Node → Prop
  | leaf {start : Nat} {text : List Char} {value : Scalar} (spelled : Leaf unit? text value) :
    Value start text (.scalar value ⟨start, start + byteLength text⟩)
  | emptyArray {start : Nat} {space : List Char} (blank : IsSpace space) :
    Value start ('[' :: (space ++ [']']))
      (.sequence [] ⟨start, start + byteLength ('[' :: (space ++ [']']))⟩)
  | array {start : Nat} {text : List Char} {items : List Node}
    (inside : Elements (start + 1) text items) :
    Value start ('[' :: (text ++ [']']))
      (.sequence items ⟨start, start + byteLength ('[' :: (text ++ [']']))⟩)
  | emptyObject {start : Nat} {space : List Char} (blank : IsSpace space) :
    Value start ('\x7b' :: (space ++ ['\x7d']))
      (.mapping [] ⟨start, start + byteLength ('\x7b' :: (space ++ ['\x7d']))⟩)
  | object {start : Nat} {text : List Char} {entries : List (Entry Node)}
    (inside : Members (start + 1) text entries) :
    Value start ('\x7b' :: (text ++ ['\x7d']))
      (.mapping entries ⟨start, start + byteLength ('\x7b' :: (text ++ ['\x7d']))⟩)

/-- A value with white space around it. -/
inductive Element : Nat → List Char → Node → Prop
  | mk {start : Nat} {before text behind : List Char} {node : Node} (opens : IsSpace before)
    (value : Value (start + byteLength before) text node) (closes : IsSpace behind) :
    Element start (before ++ (text ++ behind)) node

/-- The items of an array with commas between them. -/
inductive Elements : Nat → List Char → List Node → Prop
  | last {start : Nat} {text : List Char} {node : Node} (item : Element start text node) :
    Elements start text [node]
  | more {start : Nat} {text rest : List Char} {node : Node} {nodes : List Node}
    (item : Element start text node) (others : Elements (start + byteLength text + 1) rest nodes) :
    Elements start (text ++ ',' :: rest) (node :: nodes)

/-- A key, a colon and a value, with white space around each. -/
inductive Member : Nat → List Char → Entry Node → Prop
  | mk {start : Nat} {before name between text : List Char} {key : String} {node : Node}
    (opens : IsSpace before) (quoted : Quoted unit? name key) (parts : IsSpace between)
    (value : Element (start + byteLength (before ++ (name ++ between)) + 1) text node) :
    Member start (before ++ (name ++ (between ++ ':' :: text)))
      ⟨key, ⟨start + byteLength before, start + byteLength before + byteLength name⟩, node⟩

/-- The members of an object with commas between them. -/
inductive Members : Nat → List Char → List (Entry Node) → Prop
  | last {start : Nat} {text : List Char} {entry : Entry Node} (member : Member start text entry) :
    Members start text [entry]
  | more {start : Nat} {text rest : List Char} {entry : Entry Node} {entries : List (Entry Node)}
    (member : Member start text entry)
    (others : Members (start + byteLength text + 1) rest entries) :
    Members start (text ++ ',' :: rest) (entry :: entries)

end

/-- A text that holds one value, behind a byte order mark or without one. -/
inductive Document : List Char → Node → Prop
  | plain {text : List Char} {root : Node} (unmarked : text.head? ≠ some '\uFEFF')
    (value : Element unit? 0 text root) : Document text root
  | marked {text : List Char} {root : Node} (value : Element unit? 3 text root) :
    Document ('\uFEFF' :: text) root

end SpecTrace.Grammar
