import SpecTrace.Json.Value
import SpecTrace.Yaml.ScalarStyle

/-! JSON values as YAML in block style. -/

namespace SpecTrace.Yaml

/-- Where a value is written. -/
inductive Slot where
  /-- It is the document. -/
  | document
  /-- It follows the colon of an entry on the line of the key; the mapping has an indentation. -/
  | afterKey (indent : Nat)
  /-- It follows a dash, or a colon on a line of its own, at an indentation. -/
  | afterMark (indent : Nat)

namespace Slot

/-- The indentation of the lines of a scalar. -/
def scalarIndent : Slot → Nat
  | document => 2
  | afterKey indent => indent + 2
  | afterMark indent => indent + 2

/-- The indentation of the items of a sequence; they may stand below the key. -/
def sequenceIndent : Slot → Nat
  | document => 0
  | afterKey indent => indent
  | afterMark indent => indent + 2

/-- The indentation of the entries of a mapping. -/
def mappingIndent : Slot → Nat
  | document => 0
  | afterKey indent => indent + 2
  | afterMark indent => indent + 2

/-- What stands in front of a value on the same line. -/
def inlineLead : Slot → List Char
  | document => []
  | afterKey _ => [' ']
  | afterMark _ => [' ']

/-- What stands in front of the first line of a collection with an indentation. -/
def blockLead (indent : Nat) : Slot → List Char
  | document => []
  | afterKey _ => '\n' :: List.replicate indent ' '
  | afterMark _ => [' ']

end Slot

/-- A key with this many bytes still stands in front of its colon. -/
def maxKeyLength : Nat := 128

/-- The key stands on one line with its colon. -/
def isSimpleKey (key : List Char) : Bool :=
  byteLength key ≤ maxKeyLength && !key.any isLineBreak

/-- A key up to the colon, and where its value stands. -/
def keyText (indent : Nat) (key : List Char) : List Char × Slot :=
  if isSimpleKey key then (stringKey (indent + 2) key ++ [':'], .afterKey indent)
  else
    let line := '?' :: ' ' :: stringLine (indent + 2) key
    (line ++ List.replicate indent ' ' ++ [':'], .afterMark indent)

mutual

/-- The lines of a value. -/
def valueLines (slot : Slot) : Json → List Char
  | .null => slot.inlineLead ++ ['n', 'u', 'l', 'l', '\n']
  | .bool true => slot.inlineLead ++ ['t', 'r', 'u', 'e', '\n']
  | .bool false => slot.inlineLead ++ ['f', 'a', 'l', 's', 'e', '\n']
  | .number value => slot.inlineLead ++ numberText value ++ ['\n']
  | .string value => slot.inlineLead ++ stringLine slot.scalarIndent value.toList
  | .array [] => slot.inlineLead ++ ['[', ']', '\n']
  | .array (item :: rest) =>
    let indent := slot.sequenceIndent
    slot.blockLead indent ++ '-' :: valueLines (.afterMark indent) item ++ itemLines indent rest
  | .object [] => slot.inlineLead ++ ['\x7b', '\x7d', '\n']
  | .object ((key, value) :: rest) =>
    let indent := slot.mappingIndent
    let (keyPart, valueSlot) := keyText indent key.toList
    slot.blockLead indent ++ keyPart ++ valueLines valueSlot value ++ entryLines indent rest

/-- The lines of items behind the first one. -/
def itemLines (indent : Nat) : List Json → List Char
  | [] => []
  | item :: rest =>
    List.replicate indent ' ' ++ '-' :: valueLines (.afterMark indent) item ++
      itemLines indent rest

/-- The lines of entries behind the first one. -/
def entryLines (indent : Nat) : List (String × Json) → List Char
  | [] => []
  | (key, value) :: rest =>
    let (keyPart, valueSlot) := keyText indent key.toList
    List.replicate indent ' ' ++ keyPart ++ valueLines valueSlot value ++ entryLines indent rest

end

/-- The document that holds a value. -/
def print (value : Json) : String :=
  String.ofList (valueLines .document value)

end SpecTrace.Yaml
