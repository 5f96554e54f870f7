import SpecTrace.Markup.Lexer

/-! The tree that the tokens of a settings text form. Aliases are replaced by the nodes that they
name. -/

namespace SpecTrace.Markup

/-- A node with its tag, which is the full one. -/
inductive Tree where
  | scalar (tag : Option String) (plain : Bool) (text : String)
  | sequence (tag : Option String) (items : List Tree)
  | mapping (tag : Option String) (entries : List (Tree × Tree))
deriving Inhabited, Repr

namespace Tree

/-- A node that is left out. -/
def empty : Tree := .scalar none true ""

end Tree

/-- What is left of the tokens, and what was read before that matters later. -/
structure Reading where
  tokens : List Token
  /-- The starts of tags that handles stand for; the first one of a handle counts. -/
  handles : List (List Char × List Char)
  /-- The numbers of anchored nodes under their names, the latest first. -/
  names : List (List Char × Nat)
  /-- The anchored nodes that are complete, with the number of aliases that were followed in
  them. -/
  complete : List (Nat × Tree × Nat)
  /-- Scalars and aliases, and the starts and the ends of collections. -/
  events : Nat
  /-- Aliases that are followed, also those in nodes that aliases name. -/
  followed : Nat

namespace Reading

/-- Past the next token. -/
def skip (r : Reading) : Reading :=
  { r with tokens := r.tokens.tail }

/-- The next token is one of those given; the end of the tokens is none. -/
def sees (r : Reading) (tokens : List Token) : Bool :=
  r.tokens.head?.any tokens.contains

/-- Counts further events. -/
def count (events : Nat) (r : Reading) : Reading :=
  { r with events := r.events + events }

/-- A node that is left out. -/
def empty (r : Reading) : Tree × Reading :=
  (.empty, r.count 1)

end Reading

/-- The tag and the anchor in front of a node. -/
structure Properties where
  tag : Option TagName
  anchor : Option (List Char)

/-- A tag and an anchor in either order, each at most once. -/
def readProperties (r : Reading) : Properties × Reading :=
  match r.tokens with
  | .anchor name :: .tag tag :: rest => (⟨some tag, some name⟩, { r with tokens := rest })
  | .tag tag :: .anchor name :: rest => (⟨some tag, some name⟩, { r with tokens := rest })
  | .anchor name :: rest => (⟨none, some name⟩, { r with tokens := rest })
  | .tag tag :: rest => (⟨some tag, none⟩, { r with tokens := rest })
  | _ => (⟨none, none⟩, r)

/-- The full tag; a handle has to be known. -/
def resolveTag? (handles : List (List Char × List Char)) (tag : TagName) : Option String :=
  if tag.handle.isEmpty then some (String.ofList tag.ending)
  else
    (handles.find? fun handle => handle.1 = tag.handle).map fun handle =>
      String.ofList (handle.2 ++ tag.ending)

/-- The node that an alias names, which has to be complete. -/
def followAlias? (name : List Char) (r : Reading) : Option (Tree × Reading) := do
  let (_, number) ← r.names.find? fun anchor => anchor.1 = name
  let (_, node, followed) ← r.complete.find? fun anchored => anchored.1 = number
  some (node, { r.count 1 with followed := r.followed + 1 + followed })

/-- The value behind a colon, unless one of the tokens that leave it out comes next. -/
def readValue? (node : Reading → Option (Tree × Reading)) (leaveOut : List Token) (r : Reading) :
    Option (Tree × Reading) :=
  if !r.sees [.value] then some r.empty
  else if r.skip.sees leaveOut then some r.skip.empty
  else node r.skip

/-- A key and its value. The same tokens leave out the key, next to the colon. -/
def readEntry? (node : Reading → Option (Tree × Reading)) (leaveOut : List Token) (r : Reading) :
    Option ((Tree × Tree) × Reading) := do
  let (key, r) ← if r.sees (.value :: leaveOut) then some r.empty else node r
  let (value, r) ← readValue? node leaveOut r
  some ((key, value), r)

/-- The entries of a block sequence up to its end. -/
def readBlockItems? (node : Reading → Option (Tree × Reading)) :
    Nat → Reading → Option (List Tree × Reading)
  | 0, _ => none
  | bound + 1, r =>
    if r.sees [.blockEnd] then some ([], r.skip)
    else if !r.sees [.blockEntry] then none
    else do
      let isLeftOut := r.skip.sees [.blockEntry, .blockEnd]
      let (item, r) ← if isLeftOut then some r.skip.empty else node r.skip
      let (rest, r) ← readBlockItems? node bound r
      some (item :: rest, r)

/-- The entries of a block sequence that stands at the column of its key. -/
def readFlushItems? (node : Reading → Option (Tree × Reading)) :
    Nat → Reading → Option (List Tree × Reading)
  | 0, _ => none
  | bound + 1, r =>
    if !r.sees [.blockEntry] then some ([], r)
    else do
      let isLeftOut := r.skip.sees [.blockEntry, .key, .value, .blockEnd]
      let (item, r) ← if isLeftOut then some r.skip.empty else node r.skip
      let (rest, r) ← readFlushItems? node bound r
      some (item :: rest, r)

/-- The entries of a block mapping up to its end. -/
def readBlockEntries? (node : Reading → Option (Tree × Reading)) :
    Nat → Reading → Option (List (Tree × Tree) × Reading)
  | 0, _ => none
  | bound + 1, r =>
    if r.sees [.blockEnd] then some ([], r.skip)
    else if !r.sees [.key] then none
    else do
      let (entry, r) ← readEntry? node [.key, .value, .blockEnd] r.skip
      let (rest, r) ← readBlockEntries? node bound r
      some (entry :: rest, r)

/-- Past the comma between two parts of a flow collection; the first part follows no comma. -/
def skipComma? (first : Bool) (r : Reading) : Option Reading :=
  if first then some r else if r.sees [.flowEntry] then some r.skip else none

/-- The items of a flow sequence up to its end. -/
def readFlowItems? (node : Reading → Option (Tree × Reading)) :
    Nat → (first : Bool) → Reading → Option (List Tree × Reading)
  | 0, _, _ => none
  | bound + 1, first, r =>
    let leaveOut : List Token := [.flowEntry, .flowSequenceEnd]
    if r.sees [.flowSequenceEnd] then some ([], r.skip)
    else do
      let r ← skipComma? first r
      if r.sees [.flowSequenceEnd] then some ([], r.skip)
      else if r.sees [.key] then
        -- A single pair is a mapping of its own.
        if r.skip.sees (.value :: leaveOut) then none
        else
          let (entry, r) ← readEntry? node leaveOut (r.skip.count 2)
          let (rest, r) ← readFlowItems? node bound false r
          some (.mapping none [entry] :: rest, r)
      else
        let (item, r) ← node r
        let (rest, r) ← readFlowItems? node bound false r
        some (item :: rest, r)

/-- The entries of a flow mapping up to its end. -/
def readFlowEntries? (node : Reading → Option (Tree × Reading)) :
    Nat → (first : Bool) → Reading → Option (List (Tree × Tree) × Reading)
  | 0, _, _ => none
  | bound + 1, first, r =>
    if r.sees [.flowMappingEnd] then some ([], r.skip)
    else do
      let r ← skipComma? first r
      if r.sees [.flowMappingEnd] then some ([], r.skip)
      else
        let (entry, r) ←
          if r.sees [.key] then readEntry? node [.flowEntry, .flowMappingEnd] r.skip
          else (node r).map fun (key, r) => ((key, r.empty.1), r.empty.2)
        let (rest, r) ← readFlowEntries? node bound false r
        some (entry :: rest, r)

/-- How the nodes inside a node are read. -/
structure Children where
  /-- A value in a block mapping. -/
  value : Reading → Option (Tree × Reading)
  /-- An item in a block sequence. -/
  item : Reading → Option (Tree × Reading)
  /-- A part of a flow collection. -/
  part : Reading → Option (Tree × Reading)

/-- Where a node stands. -/
inductive Slot where
  /-- In a block mapping, where a sequence may stand at the column of its key. -/
  | value
  /-- Elsewhere in a block. -/
  | item
  /-- In a flow collection. -/
  | part
deriving DecidableEq, Repr

/-- The content of a node behind its properties. -/
def readContent? (children : Children) (slot : Slot) (hasProperties : Bool) (tag : Option String)
    (r : Reading) : Option (Tree × Reading) :=
  let bound := r.tokens.length + 1
  match r.tokens with
  | .blockEntry :: _ =>
    if slot = .value then
      (readFlushItems? children.item bound (r.count 2)).map fun (items, r) =>
        (.sequence tag items, r)
    else if hasProperties then some (.scalar tag true "", r.count 1)
    else none
  | .scalar plain text :: _ =>
    -- A lone exclamation mark in front of a scalar is no tag.
    some (.scalar (tag.filter (· ≠ "!")) plain (String.ofList text), r.skip.count 1)
  | .flowSequenceStart :: _ =>
    (readFlowItems? children.part bound true (r.skip.count 2)).map fun (items, r) =>
      (.sequence tag items, r)
  | .flowMappingStart :: _ =>
    (readFlowEntries? children.part bound true (r.skip.count 2)).map fun (entries, r) =>
      (.mapping tag entries, r)
  | next =>
    if next.head? = some .blockSequenceStart ∧ slot ≠ .part then
      (readBlockItems? children.item bound (r.skip.count 2)).map fun (items, r) =>
        (.sequence tag items, r)
    else if next.head? = some .blockMappingStart ∧ slot ≠ .part then
      (readBlockEntries? children.value bound (r.skip.count 2)).map fun (entries, r) =>
        (.mapping tag entries, r)
    else if hasProperties then some (.scalar tag true "", r.count 1)
    else none

/-- A node, nested no deeper than a bound. -/
def readNode? : Nat → Slot → Reading → Option (Tree × Reading)
  | 0, _, _ => none
  | depth + 1, slot, r => do
    match r.tokens with
    | .alias name :: _ => followAlias? name r.skip
    | _ =>
      let (p, r) := readProperties r
      let tag ← match p.tag with
        | some tag => (resolveTag? r.handles tag).map some
        | none => some none
      let children : Children :=
        ⟨readNode? depth .value, readNode? depth .item, readNode? depth .part⟩
      let hasProperties := p.tag.isSome || p.anchor.isSome
      match p.anchor with
      | none => readContent? children slot hasProperties tag r
      | some name =>
        let number := r.names.length
        let opened := { r with names := (name, number) :: r.names }
        let (node, closed) ← readContent? children slot hasProperties tag opened
        let followed := closed.followed - r.followed
        some (node, { closed with complete := (number, node, followed) :: closed.complete })

/-! ### Documents -/

/-- A token of a directive. -/
def isDirective : Token → Bool
  | .versionDirective _ _ => true
  | .tagDirective _ _ => true
  | _ => false

/-- The handles and starts of tags in directives. -/
def handlesOf (directives : List Token) : List (List Char × List Char) :=
  directives.filterMap fun directive =>
    match directive with
    | .tagDirective handle start => some (handle, start)
    | _ => none

/-- The versions in directives. -/
def versionsOf (directives : List Token) : List (Nat × Nat) :=
  directives.filterMap fun directive =>
    match directive with
    | .versionDirective major minor => some (major, minor)
    | _ => none

/-- There is at most one version, a supported one, and no handle twice. -/
def directivesAreValid (directives : List Token) : Bool :=
  (versionsOf directives).length ≤ 1 && (versionsOf directives).all [(1, 1), (1, 2)].contains &&
    decide ((handlesOf directives).map Prod.fst).Nodup

/-- The handles that every document knows. -/
def standardHandles : List (List Char × List Char) :=
  [(['!'], ['!']), (['!', '!'], "tag:yaml.org,2002:".toList)]

/-- The root of the document that a list of tokens begins with. -/
def readRoot? (tokens : List Token) : Option (Tree × Reading) :=
  let directives := tokens.takeWhile isDirective
  let rest := tokens.drop directives.length
  let start (tokens : List Token) : Reading :=
    ⟨tokens, handlesOf directives ++ standardHandles, [], [], 0, 0⟩
  let node := readNode? (tokens.length + 1) .item
  if !directivesAreValid directives then none
  else
    match rest with
    | .documentStart :: rest =>
      let isLeftOut := rest.head?.all fun token =>
        isDirective token || token = .documentStart || token = .documentEnd
      if isLeftOut then some (start rest).empty else node (start rest)
    | _ => if directives.isEmpty then node (start rest) else none

/-- Aliases may be followed this often for each event of a document. -/
def maxFollowed : Nat := 100

/-- The tree of a text that holds at most one document; none if it is malformed. -/
def tree? (text : List Char) : Option Tree := do
  let tokens ← tokens? text
  if tokens.isEmpty then some .empty
  else
    let (root, r) ← readRoot? tokens
    let ends := r.tokens.all (· = .documentEnd)
    if ends && r.followed ≤ maxFollowed * r.events then some root else none

end SpecTrace.Markup
