import SpecTrace.Json.Value
import SpecTrace.Pointer

/-! The versions of API descriptions, and where each keeps reusable parts. -/

namespace SpecTrace

/-- The first digit of every run of ten decimal digits in Unicode. -/
def decimalDigitRuns : List Nat :=
  [
    0x0030, 0x0660, 0x06F0, 0x07C0, 0x0966, 0x09E6, 0x0A66, 0x0AE6, 0x0B66, 0x0BE6, 0x0C66,
    0x0CE6, 0x0D66, 0x0DE6, 0x0E50, 0x0ED0, 0x0F20, 0x1040, 0x1090, 0x17E0, 0x1810, 0x1946,
    0x19D0, 0x1A80, 0x1A90, 0x1B50, 0x1BB0, 0x1C40, 0x1C50, 0xA620, 0xA8D0, 0xA900, 0xA9D0,
    0xA9F0, 0xAA50, 0xABF0, 0xFF10, 0x104A0, 0x10D30, 0x10D40, 0x11066, 0x110F0, 0x11136,
    0x111D0, 0x112F0, 0x11450, 0x114D0, 0x11650, 0x116C0, 0x116D0, 0x116DA, 0x11730, 0x118E0,
    0x11950, 0x11BF0, 0x11C50, 0x11D50, 0x11DA0, 0x11F50, 0x16A60, 0x16AC0, 0x16B50, 0x1CCF0,
    0x1D7CE, 0x1D7D8, 0x1D7E2, 0x1D7EC, 0x1D7F6, 0x1E140, 0x1E2F0, 0x1E4F0, 0x1E5F1, 0x1E950,
    0x1FBF0]

/-- A decimal digit of any script. -/
def isDecimalDigit (c : Char) : Bool :=
  decimalDigitRuns.any fun first => first ≤ c.toNat && c.toNat < first + 10

/-- The versions whose documents can be bundled across files. -/
inductive ApiVersion where
  | v2
  | v3
deriving DecidableEq, Repr

namespace ApiVersion

/-- A version text of the third major version: one digit for the patch level, and an optional
suffix behind a hyphen. -/
def isThird (text : String) : Bool :=
  match text.toList with
  | '3' :: '.' :: '0' :: '.' :: digit :: suffix =>
    isDecimalDigit digit &&
      match suffix with
      | [] => true
      | '-' :: more => !more.isEmpty && !more.contains '\n'
      | _ => false
  | _ => false

/-- The version that a document declares. -/
def detect? (document : Json) : Option ApiVersion :=
  if (document.get? "swagger").bind Json.string? = some "2.0" then some .v2
  else if ((document.get? "openapi").bind Json.string?).any isThird then some .v3
  else none

/-- The containers of a version: what the key above a reference says is referenced, and where
such parts are kept. -/
def containers : ApiVersion → List (String × Pointer)
  | .v2 =>
    [("parameters", ["parameters"]),
     ("schema", ["definitions"]),
     ("responses", ["responses"])]
  | .v3 =>
    [("parameters", ["components", "parameters"]),
     ("schema", ["components", "schemas"]),
     ("responses", ["components", "responses"]),
     ("examples", ["components", "examples"]),
     ("requestBody", ["components", "requestBodies"]),
     ("callbacks", ["components", "callbacks"]),
     ("headers", ["components", "headers"]),
     ("links", ["components", "links"])]

/-- The container for a reference below a key. -/
def container? (version : ApiVersion) (key : String) : Option Pointer :=
  lookupMember? version.containers key

/-- The name of a version in output. -/
def name : ApiVersion → String
  | .v2 => "v2"
  | .v3 => "v3"

end ApiVersion

end SpecTrace
