/-! Characters of UTF-8 bytes, with a mark in place of bytes that encode none. -/

namespace SpecTrace

/-- Where a decoder stands between two bytes. -/
inductive Utf8State where
  /-- Between characters. -/
  | idle
  /-- Inside a character: `wanted` bytes are missing, the next one from `low` to `high`; `code`
  holds the bits read so far. -/
  | inside (wanted low high code : Nat)

namespace Utf8

/-- The effect of the first byte of a character; none in the output marks a byte that cannot
start one. -/
def first (b : Nat) : List (Option Char) × Utf8State :=
  if b < 0x80 then ([some (Char.ofNat b)], .idle)
  else if 0xC2 ≤ b ∧ b ≤ 0xDF then ([], .inside 1 0x80 0xBF (b - 0xC0))
  else if b = 0xE0 then ([], .inside 2 0xA0 0xBF 0)
  else if b = 0xED then ([], .inside 2 0x80 0x9F 0xD)
  else if 0xE1 ≤ b ∧ b ≤ 0xEF then ([], .inside 2 0x80 0xBF (b - 0xE0))
  else if b = 0xF0 then ([], .inside 3 0x90 0xBF 0)
  else if 0xF1 ≤ b ∧ b ≤ 0xF3 then ([], .inside 3 0x80 0xBF (b - 0xF0))
  else if b = 0xF4 then ([], .inside 3 0x80 0x8F 4)
  else ([none], .idle)

/-- The effect of a byte. A byte that cannot continue a character ends it with one mark and is
read as a first byte. -/
def step : Utf8State → Nat → List (Option Char) × Utf8State
  | .idle, b => first b
  | .inside wanted low high code, b =>
    if low ≤ b ∧ b ≤ high then
      let code := code * 64 + (b - 0x80)
      if wanted ≤ 1 then ([some (Char.ofNat code)], .idle)
      else ([], .inside (wanted - 1) 0x80 0xBF code)
    else
      let (output, state) := first b
      (none :: output, state)

/-- The characters of bytes from a state on; none marks bytes that encode no character. -/
def decodeFrom : Utf8State → List UInt8 → List (Option Char)
  | .idle, [] => []
  | .inside _ _ _ _, [] => [none]
  | state, b :: rest =>
    let (output, state) := step state b.toNat
    output ++ decodeFrom state rest

/-- The characters of bytes; none marks bytes that encode no character. -/
def decode (bytes : List UInt8) : List (Option Char) :=
  decodeFrom .idle bytes

/-- The text of bytes, with a replacement character for each mark. -/
def lossyText (bytes : List UInt8) : String :=
  String.ofList ((decode bytes).map fun c => c.getD '\uFFFD')

/-- The text of bytes that encode nothing but characters. -/
def text? (bytes : List UInt8) : Option String :=
  ((decode bytes).mapM id).map String.ofList

/-- The bytes of a text. -/
def encode (text : List Char) : List UInt8 :=
  text.flatMap String.utf8EncodeChar

end Utf8

end SpecTrace
