import SpecTrace.Number.Decimal
import SpecTrace.Text.Utf8

/-! Percent-encoding: a byte is written as a percent sign with two hexadecimal digits. -/

namespace SpecTrace.Percent

/-- The bytes of a text whose percent-encoded bytes are decoded. A percent sign without two
digits behind it stands for itself. -/
def decode : List Char → List UInt8
  | [] => []
  | '%' :: high :: low :: rest =>
    match digitValue? 16 high, digitValue? 16 low with
    | some h, some l => UInt8.ofNat (h * 16 + l) :: decode rest
    | _, _ => Utf8.encode ['%'] ++ decode (high :: low :: rest)
  | c :: rest => Utf8.encode [c] ++ decode rest

/-- An upper case hexadecimal digit. -/
def hexDigit (n : Nat) : Char :=
  (Nat.digitChar n).toUpper

/-- A byte as a percent sign with two hexadecimal digits. -/
def escapeByte (b : UInt8) : List Char :=
  ['%', hexDigit (b.toNat / 16), hexDigit (b.toNat % 16)]

/-- Encodes every character outside ASCII and every other one that the set holds. -/
def encode (set : Char → Bool) (text : List Char) : List Char :=
  text.flatMap fun c =>
    if 0x80 ≤ c.toNat || set c then (Utf8.encode [c]).flatMap escapeByte else [c]

end SpecTrace.Percent
