import SpecTrace.Markup.Tree
import SpecTrace.Yaml.WideSchema

/-! What the nodes of a settings text stand for. -/

namespace SpecTrace.Settings

open Markup (Tree)

/-- The value of a node. -/
inductive Content where
  | null
  | bool (value : Bool)
  /-- An integer; a zero may be negative too. -/
  | integer (negative : Bool) (magnitude : Nat)
  | float (value : Binary64)
  | text (value : String)
  | sequence (items : List Content)
  | mapping (entries : List (Content × Content))
  /-- A value under a tag that is not a standard one. -/
  | tagged (tag : String) (value : Content)
deriving Inhabited, Repr

namespace Content

/-- A standard tag. -/
def standardTag (name : String) : String := "tag:yaml.org,2002:" ++ name

/-- A tag that only this text gives a meaning. -/
def isLocalTag (tag : String) : Bool := tag.toList.head? = some '!'

/-- The spellings of null. -/
def isNullWord (text : String) : Bool :=
  ["~", "null", "Null", "NULL"].contains text

/-- The truth value that a text spells. -/
def boolWord? (text : String) : Option Content :=
  if ["true", "True", "TRUE"].contains text then some (.bool true)
  else if ["false", "False", "FALSE"].contains text then some (.bool false)
  else none

/-- An integer, which has to fit 64 bits. -/
def ofInteger? (negative : Bool) (magnitude : Nat) : Option Content :=
  let fits := if negative then magnitude ≤ Nat.pow 2 63 else magnitude < Nat.pow 2 64
  if fits then some (.integer negative magnitude) else none

/-- The value of a plain scalar without a tag; none for an integer that does not fit. -/
def ofPlain? (text : String) : Option Content :=
  if text.isEmpty || isNullWord text then some .null
  else
    match boolWord? text, readWideInteger? text.toList with
    | some value, _ => some value
    | none, some (negative, magnitude) => ofInteger? negative magnitude
    | none, none =>
      let float? := if isPaddedInteger text.toList then none else readWideFloat? text.toList
      some ((float?.map Content.float).getD (.text text))

/-- The value of a scalar without a tag. -/
def ofUntagged? (plain : Bool) (text : String) : Option Content :=
  if plain then ofPlain? text else some (.text text)

/-- The value of a scalar with a tag. -/
def ofTagged? (tag : String) (plain : Bool) (text : String) : Option Content :=
  if tag = standardTag "bool" then boolWord? text
  else if tag = standardTag "int" then
    (readWideInteger? text.toList).bind fun (negative, magnitude) => ofInteger? negative magnitude
  else if tag = standardTag "float" then (readWideFloat? text.toList).map .float
  else if tag = standardTag "null" then if isNullWord text then some .null else none
  else if isLocalTag tag then (ofUntagged? plain text).map (.tagged tag)
  else some (.text text)

/-- The value under a tag, if that is a local one, and the value itself otherwise. -/
def underTag (tag : Option String) (value : Content) : Content :=
  match tag with
  | some tag => if isLocalTag tag then .tagged tag value else value
  | none => value

mutual

/-- The value of a tree; none if its tags or integers are refused. -/
def ofTree? : Tree → Option Content
  | .scalar none plain written => ofUntagged? plain written
  | .scalar (some tag) plain written => ofTagged? tag plain written
  | .sequence tag items => (ofItems? items).map fun items => underTag tag (.sequence items)
  | .mapping tag entries => (ofEntries? entries).map fun entries => underTag tag (.mapping entries)

/-- The values of items. -/
def ofItems? : List Tree → Option (List Content)
  | [] => some []
  | item :: rest => do some ((← ofTree? item) :: (← ofItems? rest))

/-- The values of keys and values. -/
def ofEntries? : List (Tree × Tree) → Option (List (Content × Content))
  | [] => some []
  | (key, value) :: rest => do some ((← ofTree? key, ← ofTree? value) :: (← ofEntries? rest))

end

/-- Binary64 values that are equal, where no number equals itself and the zeros each other. -/
def sameFloat : Binary64 → Binary64 → Bool
  | .finite x, .finite y => x = y || (x.rank = y.rank && x.units = 0)
  | x, y => x = y

mutual

/-- Equal values; the order of entries does not count. -/
def same : Content → Content → Bool
  | .null, .null => true
  | .bool x, .bool y => x = y
  | .integer xNegative x, .integer yNegative y => x = y && (xNegative = yNegative || x = 0)
  | .float x, .float y => sameFloat x y
  | .text x, .text y => x = y
  | .sequence xs, .sequence ys => sameItems xs ys
  | .mapping xs, .mapping ys => xs.length = ys.length && sameEntries xs ys
  | .tagged xTag x, .tagged yTag y => xTag = yTag && same x y
  | _, _ => false

/-- Items that are equal one by one. -/
def sameItems : List Content → List Content → Bool
  | [], [] => true
  | x :: xs, y :: ys => same x y && sameItems xs ys
  | _, _ => false

/-- Each entry of the first list is in the second one. -/
def sameEntries : List (Content × Content) → List (Content × Content) → Bool
  | [], _ => true
  | (key, value) :: xs, ys =>
    (ys.any fun entry => same key entry.1 && same value entry.2) && sameEntries xs ys

end

mutual

/-- No mapping in the value repeats a key. -/
def hasDistinctKeys : Content → Bool
  | .sequence items => itemsHaveDistinctKeys items
  | .mapping entries => keysAreDistinct entries
  | .tagged _ value => hasDistinctKeys value
  | _ => true

/-- No mapping in the items repeats a key. -/
def itemsHaveDistinctKeys : List Content → Bool
  | [] => true
  | item :: rest => hasDistinctKeys item && itemsHaveDistinctKeys rest

/-- The entries do not repeat a key, nor does any mapping in them. -/
def keysAreDistinct : List (Content × Content) → Bool
  | [] => true
  | (key, value) :: rest =>
    !(rest.any fun entry => same key entry.1) && hasDistinctKeys key && hasDistinctKeys value &&
      keysAreDistinct rest

end

mutual

/-- No value in the content is under a local tag. -/
def hasNoTags : Content → Bool
  | .sequence items => itemsHaveNoTags items
  | .mapping entries => entriesHaveNoTags entries
  | .tagged _ _ => false
  | _ => true

/-- No value in the items is under a local tag. -/
def itemsHaveNoTags : List Content → Bool
  | [] => true
  | item :: rest => hasNoTags item && itemsHaveNoTags rest

/-- No key or value is under a local tag. -/
def entriesHaveNoTags : List (Content × Content) → Bool
  | [] => true
  | (key, value) :: rest => hasNoTags key && hasNoTags value && entriesHaveNoTags rest

end

end Content

end SpecTrace.Settings
