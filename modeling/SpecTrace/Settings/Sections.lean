import SpecTrace.Settings.Content
import SpecTrace.Text.CharacterClass

/-! The sections of a settings text. -/

namespace SpecTrace.Settings

open Markup (Tree)

/-- What a settings text says about the search for documents. -/
inductive SearchSection where
  | enabled (on : Bool)
  | patterns (listed : Option (List String))
deriving DecidableEq, Repr

/-- The sections of a settings text that have an effect. -/
structure Sections where
  search : Option SearchSection
  /-- Files with their ids, each file once. -/
  mapping : List (String × String)
deriving DecidableEq, Repr

namespace Sections

/-- Nothing is set. -/
def none : Sections := ⟨.none, []⟩

/-- Collections may be nested this deep. -/
def maxDepth : Nat := 128

mutual

/-- Collections are nested at most as deep as the given number. -/
def fitsDepth : Tree → Nat → Bool
  | .scalar _ _ _, _ => true
  | .sequence _ _, 0 => false
  | .mapping _ _, 0 => false
  | .sequence _ items, room + 1 => itemsFitDepth items room
  | .mapping _ entries, room + 1 => entriesFitDepth entries room

/-- Collections in the items of a sequence are nested at most as deep as the given number. -/
def itemsFitDepth : List Tree → Nat → Bool
  | [], _ => true
  | item :: rest, room => fitsDepth item room && itemsFitDepth rest room

/-- Collections in the entries of a mapping are nested at most as deep as the given number. -/
def entriesFitDepth : List (Tree × Tree) → Nat → Bool
  | [], _ => true
  | (key, value) :: rest, room =>
    fitsDepth key room && fitsDepth value room && entriesFitDepth rest room

end

/-- The text of a scalar of any kind. -/
def scalarText? : Tree → Option String
  | .scalar _ _ text => some text
  | _ => .none

/-- The entries of a mapping whose keys are scalars; an empty plain scalar has none. -/
def entries? : Tree → Option (List (String × Tree))
  | .mapping _ entries =>
    entries.mapM fun (key, value) => (scalarText? key).map fun key => (key, value)
  | .scalar _ plain text => if plain && text.isEmpty then some [] else .none
  | .sequence _ _ => .none

/-- The entries of a section, which have no key twice and none but the known ones. -/
def sectionEntries? (known : List String) (tree : Tree) : Option (List (String × Tree)) := do
  let entries ← entries? tree
  let keys := entries.map Prod.fst
  if keys.all known.contains && decide keys.Nodup then some entries else .none

/-- A plain scalar that is empty or spells null leaves a value out; under the tag of null it has
to spell null. -/
def isLeftOut? : Tree → Option Bool
  | .scalar .none true text => some (text.isEmpty || Content.isNullWord text)
  | .scalar (some tag) true text =>
    if tag ≠ Content.standardTag "null" then some false
    else if Content.isNullWord text then some true
    else .none
  | _ => some false

/-- The value under a key, as `read` reads it, unless it is left out. -/
def optional? {α : Type} (read : Tree → Option α) (entries : List (String × Tree)) (key : String) :
    Option (Option α) :=
  match lookupMember? entries key with
  | .none => some .none
  | some tree => do if ← isLeftOut? tree then some .none else (read tree).map some

/-- A text among the patterns. -/
def pattern? : Content → Option String
  | .text text => some text
  | _ => .none

/-- The patterns that a search section lists. -/
def patterns? : Content → Option (Option (List String))
  | .null => some .none
  | .sequence items => (items.mapM pattern?).map some
  | _ => .none

/-- The name or the number of the only field of a search section. -/
def isPatternsKey : Content → Bool
  | .text name => name = "search"
  | .integer negative magnitude => !negative && magnitude = 0
  | _ => false

/-- The fields of a search section, by key or in order. -/
def searchFields? : Content → Option (List Content)
  | .mapping entries =>
    if entries.all fun entry => isPatternsKey entry.1 then some (entries.map Prod.snd) else .none
  | .sequence items => some items
  | _ => .none

/-- The search section: a truth value, or a mapping or a sequence of its fields. -/
def searchOf? : Content → Option SearchSection
  | .bool on => some (.enabled on)
  | content => do
    match ← searchFields? content with
    | [] => some (.patterns .none)
    | [field] => (patterns? field).map .patterns
    | _ => .none

/-- The search section, in which there are no local tags. -/
def search? (tree : Tree) : Option SearchSection := do
  let content ← Content.ofTree? tree
  if content.hasNoTags then searchOf? content else .none

/-- The mapping section; the last of several ids of a file counts. -/
def mapping? (tree : Tree) : Option (List (String × String)) := do
  let pairs ← (← entries? tree).mapM fun (file, id) => (scalarText? id).map fun id => (file, id)
  some (pairs.foldl (fun members pair => insertMember members pair.1 pair.2) [])

/-- The rules for failures have no effect, but they have to be readable. -/
def rules? (tree : Tree) : Option Unit := do
  let content ← Content.ofTree? tree
  if content.hasDistinctKeys then some () else .none

/-- The sections inside the outermost one. -/
def ofSection? (tree : Tree) : Option Sections := do
  let entries ← sectionEntries? ["discovery", "mapping", "fail_on"] tree
  let search ← optional? search? entries "discovery"
  let mapping ← optional? mapping? entries "mapping"
  let _ ← optional? rules? entries "fail_on"
  some ⟨search, mapping.getD []⟩

/-- The sections of a settings text; none if they are malformed. -/
def ofText? (text : String) : Option Sections := do
  let document := text.toList
  if document.all isWhiteSpace then some none
  else
    let root ← Markup.tree? document
    let entries ← sectionEntries? ["audit"] root
    if fitsDepth root maxDepth then
      let sections ← optional? ofSection? entries "audit"
      some (sections.getD none)
    else .none

end Sections

end SpecTrace.Settings
