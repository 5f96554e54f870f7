import SpecTrace.Json.Value

/-! The text of a JSON value, on one line or indented by two spaces a level. -/

namespace SpecTrace

/-- A character inside a quoted string: quotes, backslashes and control characters are escaped. -/
def escapedChar (c : Char) : List Char :=
  if c = '"' then ['\\', '"']
  else if c = '\\' then ['\\', '\\']
  else if c = '\n' then ['\\', 'n']
  else if c = '\r' then ['\\', 'r']
  else if c = '\t' then ['\\', 't']
  else if c = '\x08' then ['\\', 'b']
  else if c = '\x0c' then ['\\', 'f']
  else if c.toNat < 0x20 then
    ['\\', 'u', '0', '0', Nat.digitChar (c.toNat / 16), Nat.digitChar (c.toNat % 16)]
  else [c]

/-- A string in quotes. -/
def quotedText (text : String) : List Char :=
  '"' :: text.toList.flatMap escapedChar ++ ['"']

namespace Json

/-- Texts with a comma between each two. -/
def separated : List (List Char) → List Char
  | [] => []
  | [text] => text
  | text :: rest => text ++ ',' :: separated rest

mutual

/-- The text without any white space. -/
def compact : Json → List Char
  | .null => ['n', 'u', 'l', 'l']
  | .bool true => ['t', 'r', 'u', 'e']
  | .bool false => ['f', 'a', 'l', 's', 'e']
  | .number value => value.text
  | .string value => quotedText value
  | .array items => '[' :: separated (compactItems items) ++ [']']
  | .object members => '{' :: separated (compactMembers members) ++ ['}']

/-- The texts of the items of an array. -/
def compactItems : List Json → List (List Char)
  | [] => []
  | item :: rest => item.compact :: compactItems rest

/-- The texts of the members of an object. -/
def compactMembers : List (String × Json) → List (List Char)
  | [] => []
  | (key, value) :: rest => (quotedText key ++ ':' :: value.compact) :: compactMembers rest

end

/-- A line break and the indentation of a level. -/
def lineAt (level : Nat) : List Char :=
  '\n' :: List.replicate (2 * level) ' '

/-- A bracketed list of texts, each on a line of its own one level deeper; nothing inside the
brackets if there are none. -/
def indentedBlock (level : Nat) (opening closing : Char) (texts : List (List Char)) : List Char :=
  match texts with
  | [] => [opening, closing]
  | _ =>
    opening :: separated (texts.map fun text => lineAt (level + 1) ++ text) ++
      lineAt level ++ [closing]

mutual

/-- The text with every item and member on a line of its own, inside the given level. -/
def pretty (level : Nat) : Json → List Char
  | .null => ['n', 'u', 'l', 'l']
  | .bool true => ['t', 'r', 'u', 'e']
  | .bool false => ['f', 'a', 'l', 's', 'e']
  | .number value => value.text
  | .string value => quotedText value
  | .array items => indentedBlock level '[' ']' (prettyItems (level + 1) items)
  | .object members => indentedBlock level '{' '}' (prettyMembers (level + 1) members)

/-- The indented texts of the items of an array. -/
def prettyItems (level : Nat) : List Json → List (List Char)
  | [] => []
  | item :: rest => item.pretty level :: prettyItems level rest

/-- The indented texts of the members of an object. -/
def prettyMembers (level : Nat) : List (String × Json) → List (List Char)
  | [] => []
  | (key, value) :: rest =>
    (quotedText key ++ ':' :: ' ' :: value.pretty level) :: prettyMembers level rest

end

/-- The text on one line. -/
def compactText (value : Json) : String :=
  String.ofList value.compact

/-- The indented text. -/
def prettyText (value : Json) : String :=
  String.ofList (value.pretty 0)

end Json

end SpecTrace
