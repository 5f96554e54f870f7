import SpecTrace.Json.Printer
import SpecTrace.Proofs.Json.Escapes
import SpecTrace.Proofs.Json.Grammar
import SpecTrace.Proofs.Yaml.Documents

/-! The ways of writing a JSON value in the block style of YAML, with every entry on a line of its
own, and one step of reading a block collection: its entry, and what the line behind it decides. -/

namespace SpecTrace.BlockStyle

open Grammar

/-- White space behind which a new line begins: a line break, with or without blanks and blank
lines in front of it. -/
structure NewLine (gap : List Char) : Prop where
  blank : IsSpace gap
  breaks : ∃ front last, gap = front ++ [last] ∧ isBreak last = true

/-- The spaces in front of a column. -/
def indentation (column : Nat) : List Char :=
  List.replicate column ' '

/-- What is written on one line: scalars as JSON spells them, where a string may use any escapes
but those of surrogates, and empty collections. -/
inductive Inline : List Char → Json → Prop
  | null : Inline Json.null.compact .null
  | bool {value : Bool} : Inline (Json.bool value).compact (.bool value)
  | number {value : JsonNumber} : Inline (Json.number value).compact (.number value)
  | string {text : List Char} {value : String} (quoted : Quoted (loneUnit? hexUnit?) text value) :
    Inline text (.string value)
  | emptyArray : Inline ['[', ']'] (.array [])
  | emptyObject : Inline ['\x7b', '\x7d'] (.object [])

mutual

/-- What stands behind the mark of an entry in a collection at a column: behind the dash of an
item, or behind the colon of a mapping entry (`isValue`). A scalar or an empty collection follows
on the same line after one space. Another collection starts on a line of its own at a larger
column; a sequence that is a mapping value may start at the column of the key. -/
inductive Child : (isValue : Bool) → (column : Nat) → List Char → Json → Prop
  | inline {isValue : Bool} {column : Nat} {text : List Char} {value : Json}
    (written : Inline text value) : Child isValue column (' ' :: text) value
  | nested {isValue : Bool} {column inner : Nat} {gap text : List Char} {value : Json}
    (line : NewLine gap) (deeper : column < inner) (written : Collection inner text value) :
    Child isValue column (gap ++ (indentation inner ++ text)) value
  | level {column : Nat} {gap text : List Char} {items : List Json} (line : NewLine gap)
    (written : Items column text items) :
    Child true column (gap ++ (indentation column ++ text)) (.array items)

/-- A collection whose entries start at a column, from its first entry on. -/
inductive Collection : (column : Nat) → List Char → Json → Prop
  | array {column : Nat} {text : List Char} {items : List Json}
    (written : Items column text items) : Collection column text (.array items)
  | object {column : Nat} {text : List Char} {members : List (String × Json)}
    (written : Entries column text members) : Collection column text (.object members)

/-- One or more items of a sequence at a column, each behind a dash. -/
inductive Items : (column : Nat) → List Char → List Json → Prop
  | last {column : Nat} {text : List Char} {value : Json} (child : Child false column text value) :
    Items column ('-' :: text) [value]
  | more {column : Nat} {text gap rest : List Char} {value : Json} {values : List Json}
    (child : Child false column text value) (line : NewLine gap)
    (others : Items column rest values) :
    Items column ('-' :: (text ++ (gap ++ (indentation column ++ rest)))) (value :: values)

/-- One or more entries of a mapping at a column, each with a key in double quotes and a colon. -/
inductive Entries : (column : Nat) → List Char → List (String × Json) → Prop
  | last {column : Nat} {name text : List Char} {key : String} {value : Json}
    (quoted : Quoted (loneUnit? hexUnit?) name key) (child : Child true column text value) :
    Entries column (name ++ ':' :: text) [(key, value)]
  | more {column : Nat} {name text gap rest : List Char} {key : String} {value : Json}
    {members : List (String × Json)} (quoted : Quoted (loneUnit? hexUnit?) name key)
    (child : Child true column text value) (line : NewLine gap)
    (others : Entries column rest members) :
    Entries column (name ++ ':' :: (text ++ (gap ++ (indentation column ++ rest))))
      ((key, value) :: members)

end

/-- A text that holds one value: a scalar or an empty collection, or the lines of another
collection, with white space around. -/
inductive Document : List Char → Json → Prop
  | inline {before text behind : List Char} {value : Json} (opens : IsSpace before)
    (written : Inline text value) (closes : IsSpace behind) :
    Document (before ++ (text ++ behind)) value
  | collection {column : Nat} {gap text behind : List Char} {value : Json}
    (opens : gap = [] ∨ NewLine gap) (written : Collection column text value)
    (closes : IsSpace behind) :
    Document ((gap ++ indentation column) ++ (text ++ behind)) value

end SpecTrace.BlockStyle

namespace SpecTrace.Yaml

open Grammar BlockStyle

variable {c d after next : Cursor} {text document : List Char} {s t u : State} {column : Nat}

/-! ### The next entry -/

/-- White space reaches up to the next entry on another line, or to the end of the text. -/
structure Ahead (after next : Cursor) : Prop where
  passed : ∃ space, IsSpace space ∧ after.Passes space next ∧
    (next.rest = [] ∨ space.any isBreak = true)
  opens : next.rest = [] ∨ Opens next

/-- Nothing stands at a column or right of it. -/
def Left (column : Nat) (next : Cursor) : Prop :=
  next.rest = [] ∨ next.column < column

/-- What follows an entry at a column belongs to no child of the entry: it stands left of the
column, or at the column. Behind the value of a mapping entry it is a key there. -/
def Closes (isValue : Bool) (column : Nat) (next : Cursor) : Prop :=
  Left column next ∨ next.column = column ∧ (isValue = true → next.peek = some '"')

/-- What follows an entry stands left of every column inside of it. -/
theorem Closes.left {isValue : Bool} {inner : Nat} (closes : Closes isValue column next)
    (deeper : column < inner) : Left inner next := by
  -- At the column of the entry it still stands left of what is deeper.
  rcases closes with (nothing | left) | ⟨level, _⟩
  · exact Or.inl nothing
  · exact Or.inr (Nat.lt_trans left deeper)
  · exact Or.inr (level ▸ deeper)

/-- What may follow the value of a mapping entry may follow an item as well. -/
theorem Closes.item (closes : Closes true column next) : Closes false column next :=
  closes.imp_right fun level => ⟨level.1, nofun⟩

namespace Ahead

/-- The next entry does not begin with layout. -/
theorem stops (ahead : Ahead after next) : Stops inLayout next.rest :=
  ahead.opens.elim stops_of_end Opens.stops

/-- The next entry is no document marker. -/
theorem not_marker (ahead : Ahead after next) : next.atDocumentMarker = false := by
  rcases ahead.opens with nothing | opens
  · simp [Cursor.atDocumentMarker, not_marker_of_end nothing (by decide : openingMarker ≠ []),
      not_marker_of_end nothing (by decide : closingMarker ≠ [])]
  · exact opens.notMarker

/-- Layout is skipped up to the next entry. -/
theorem skipLayout (ahead : Ahead after next) (s : State) :
    (s.moveTo after).skipLayout = s.moveTo next := by
  obtain ⟨space, blank, passed, _⟩ := ahead.passed
  exact skipLayout_moveTo blank passed ahead.stops

/-- At the next entry there is no layout to skip. -/
theorem skipped (ahead : Ahead after next) (s : State) :
    (s.moveTo next).skipLayout = s.moveTo next :=
  skipLayout_self ahead.stops

/-- The line ends in front of the next entry. -/
theorem lineEnds {margin : Nat} (ahead : Ahead after next) (left : Left margin next) :
    LineEnds margin after := by
  obtain ⟨space, blank, passed, breaks⟩ := ahead.passed
  refine lineEnds_of_space blank passed ahead.stops ?_
  -- A line that stands left of the margin continues nothing.
  rcases left with nothing | left
  · exact Or.inl nothing
  · exact breaks.imp_right fun breaks => ⟨breaks, left⟩

end Ahead

/-! ### New lines -/

/-- The spaces in front of a column are white space. -/
theorem isSpace_indentation (column : Nat) : IsSpace (indentation column) :=
  fun _ member => Or.inl (List.eq_of_mem_replicate member)

/-- The spaces of an indentation are columns. -/
theorem column_of_indentation (passed : c.Passes (indentation column) d) :
    d.column = c.column + column := by
  -- Spaces take one byte each and break no line.
  have single : byteLength (indentation column) = column := by
    rw [byteLength_of_single fun ch member => by rw [List.eq_of_mem_replicate member]; rfl]
    exact List.length_replicate
  rw [passed.column fun ch member => by rw [List.eq_of_mem_replicate member]; rfl, single]

/-- On a new line an entry stands at the column of its indentation. -/
theorem column_of_newLine {gap : List Char} (line : NewLine gap)
    (passed : c.Passes (gap ++ indentation column) d) : d.column = column := by
  -- The gap ends with a line break, so the spaces are counted from column zero.
  obtain ⟨front, last, rfl, breaks⟩ := line.breaks
  obtain ⟨middle, begins, spaces⟩ := passed.split
  rw [column_of_indentation spaces, begins.column_break breaks, Nat.zero_add]

/-- A new line with its indentation is white space with a line break. -/
theorem newLine_space {gap : List Char} (line : NewLine gap) (column : Nat) :
    IsSpace (gap ++ indentation column) ∧ (gap ++ indentation column).any isBreak = true := by
  refine ⟨line.blank.append (isSpace_indentation column), ?_⟩
  obtain ⟨front, last, rfl, breaks⟩ := line.breaks
  simp [breaks]

/-- Behind a part of a text, a new line leads to what is written at its column. -/
theorem passes_newLine {gap rest : List Char} (line : NewLine gap)
    (passed : c.Passes (text ++ (gap ++ (indentation column ++ rest))) after) :
    ∃ d next, c.Passes text d ∧ d.Passes (gap ++ indentation column) next ∧
      next.Passes rest after ∧ next.column = column ∧ next.left ≤ c.left := by
  obtain ⟨d, first, behind⟩ := passed.split
  rw [← List.append_assoc] at behind
  -- The gap and the indentation belong together: they end where the next entry stands.
  obtain ⟨next, spaced, second⟩ := behind.split
  have before := first.left
  have between := spaced.left
  exact ⟨d, next, first, spaced, second, column_of_newLine line spaced, by omega⟩

/-- Behind a new line the next entry opens. -/
theorem ahead_of_newLine {gap : List Char} (line : NewLine gap)
    (passed : c.Passes (gap ++ indentation column) d) (opens : Opens d) : Ahead c d := by
  obtain ⟨blank, breaks⟩ := newLine_space line column
  exact ⟨⟨_, blank, passed, Or.inr breaks⟩, Or.inr opens⟩

/-- A dash with a blank behind it opens a node. -/
theorem opens_of_dash (dash : c.atIndicator '-' = true) : Opens c := by
  -- What opens a node must be no layout, no mark of properties and no marker of documents.
  unfold Cursor.atIndicator at dash
  simp only [Bool.and_eq_true, decide_eq_true_eq] at dash
  obtain ⟨there, blank⟩ := dash
  have rest := (Cursor.Passes.next there).rest
  refine ⟨?_, ?_, fun mark known same => ?_, ?_⟩
  -- A dash is no layout and no mark of properties.
  · rw [rest]
    rintro ch same
    cases same
    rfl
  · rw [Cursor.atEnd, rest]
    rfl
  · cases Option.some.inj (there.symm.trans same)
    simp at known
  · -- A marker has a second dash in place of the blank.
    have neither : ∀ marker : List Char, marker = openingMarker ∨ marker = closingMarker →
        c.startsWith marker = false := by
      intro marker known
      cases marked : c.startsWith marker with
      | false => rfl
      | true =>
        obtain ⟨tail, same⟩ := List.isPrefixOf_iff_prefix.mp marked
        unfold Cursor.peek at there
        unfold Cursor.peekSecond at blank
        rw [← same] at there blank
        rcases known with rfl | rfl
        · cases blank
        · cases there
    simp [Cursor.atDocumentMarker, Cursor.atMarker, Cursor.startsWithMarker, neither]

/-- A quote opens a node. -/
theorem opens_of_quote (quote : c.peek = some '"') : Opens c :=
  have starts : Starts c '"' := ⟨quote, by decide, nofun⟩
  starts.opens

/-- Behind the mark of an entry there is a blank. -/
theorem child_blank {isValue : Bool} {value : Json} (child : Child isValue column text value) :
    ∃ first rest, text = first :: rest ∧ isBlank (some first) = true := by
  have newLine : ∀ {gap back : List Char}, NewLine gap →
      ∃ first rest, gap ++ back = first :: rest ∧ isBlank (some first) = true := by
    intro gap back line
    obtain ⟨front, last, same, _⟩ := line.breaks
    -- A gap is not empty, since it ends with a break.
    cases gap with
    | nil => simp at same
    | cons first rest =>
      refine ⟨first, rest ++ back, rfl, ?_⟩
      rcases line.blank first List.mem_cons_self with rfl | rfl | rfl | rfl <;> rfl
  -- A space stands in front of a value on the line, and white space in front of a new line.
  cases child with
  | inline written => exact ⟨_, _, rfl, rfl⟩
  | nested line deeper written => exact newLine line
  | level line written => exact newLine line

/-- The mark in front of a child is an indicator. -/
theorem atIndicator_of_child {isValue : Bool} {value : Json} {indicator : Char} {back : List Char}
    (child : Child isValue column text value)
    (passed : c.Passes (indicator :: (text ++ back)) after) : c.atIndicator indicator = true := by
  obtain ⟨first, rest, rfl, blank⟩ := child_blank child
  unfold Cursor.atIndicator Cursor.peekSecond
  rw [passed.peek, passed.rest]
  simp [blank]

/-- On a new line a block node is read by its content. -/
theorem readBlockNode_newLine {gap : List Char} {room margin : Nat} {place : Place}
    (line : NewLine gap) (spaced : s.cursor.Passes (gap ++ indentation column) c)
    (opens : Opens c) :
    readBlockNode document (room + 1) margin place s =
      readBlockContent document ⟨readBlockNode document room, readFlowNode document room⟩ margin
        place true .none s.cursor.offset (s.moveTo c) := by
  obtain ⟨blank, breaks⟩ := newLine_space line column
  -- The gap holds a break, so the node is not on the line of its mark.
  rw [readBlockNode_opens spaced blank opens, breaks]

/-! ### Items -/

variable {node : State → Reading (Node × State)} {child : Node} {count : Nat}

/-- An item with nothing more of the sequence behind it is the last one. -/
theorem readBlockItems_last (read : node s.next = .ok (child, t)) (skipped : t.skipLayout = u)
    (notMarker : u.cursor.atDocumentMarker = false) (closes : Closes true column u.cursor) :
    readBlockItems node column (count + 1) s =
      .ok (([child], reach s.cursor.next.offset child), u) := by
  -- The reader goes on behind the dash, with the other parts of its state unchanged.
  have moved : s.moveTo s.cursor.next = s.next := rfl
  unfold readBlockItems
  simp only [moved, read, bind, Except.bind, skipped, notMarker, Bool.or_false]
  -- The text has ended, or what follows stands further left, or it is a key.
  rcases closes with (nothing | left) | ⟨level, key⟩
  · simp [Cursor.atEnd, nothing]
  · simp [Nat.not_lt.mpr (Nat.le_of_lt left), left]
  · have noDash : u.cursor.atIndicator '-' = false := by
      simp [Cursor.atIndicator, key rfl]
    simp [level, noDash]

/-- An item with another dash at the column behind it has more items behind it. -/
theorem readBlockItems_more {rest : List Node} {stop : Nat} {last : State}
    (read : node s.next = .ok (child, t)) (skipped : t.skipLayout = u)
    (level : u.cursor.column = column) (dash : u.cursor.atIndicator '-' = true)
    (more : readBlockItems node column count u = .ok ((rest, stop), last)) :
    readBlockItems node column (count + 1) s =
      .ok ((child :: rest, max (reach s.cursor.next.offset child) stop), last) := by
  have moved : s.moveTo s.cursor.next = s.next := rfl
  -- Where the next item opens the text has not ended and no marker stands.
  have opens := opens_of_dash dash
  unfold readBlockItems
  simp only [moved, read, bind, Except.bind, skipped, opens.there, opens.notMarker, level, dash,
    Bool.or_false, Bool.false_eq_true, if_false, Nat.lt_irrefl, decide_false, Bool.not_true, more]

/-! ### Entries -/

/-- The key of an entry ends at a colon. -/
structure KeyEnds (bound : Nat) (c : Cursor) (key : String) (colon : Cursor) : Prop where
  quote : c.peek = some '"'
  read : readQuoted bound c = .ok ((key, ⟨c.offset, colon.offset⟩), colon)
  there : colon.atIndicator ':' = true

variable {key : String} {colon : Cursor} {bound : Nat}

/-- A key is read up to its colon. -/
theorem keyEnds {name back : List Char} {value : Json} (quoted : Quoted codeUnit? name key)
    (written : Child true column text value)
    (passed : c.Passes (name ++ ':' :: (text ++ back)) after) (enough : c.left ≤ bound) :
    ∃ colon, KeyEnds bound c key colon ∧ c.Passes (name ++ [':']) colon.next ∧
      colon.next.Passes (text ++ back) after := by
  -- The key is a quoted scalar that ends in front of the colon.
  obtain ⟨colon, named, behind⟩ := passed.split
  have read := readQuoted_of_quoted quoted named enough
  rw [← named.offset] at read
  refine ⟨colon, ⟨?_, read, atIndicator_of_child written behind⟩, ?_, behind.tail⟩
  · obtain ⟨rest, rfl⟩ := quoted.first
    exact named.peek
  · exact named.trans (.next behind.peek)

namespace KeyEnds

/-- No blanks stand in front of the colon. -/
theorem unspaced (ends : KeyEnds bound c key colon) : colon.skipInlineSpace = colon := by
  have there := ends.there
  unfold Cursor.atIndicator at there
  simp only [Bool.and_eq_true, decide_eq_true_eq] at there
  -- The colon itself is no blank.
  refine (Cursor.Passes.refl colon).skipWhile nofun fun ch next => ?_
  cases Option.some.inj (there.1.symm.trans next)
  rfl

/-- The key is told from a scalar. -/
theorem atMappingKey (ends : KeyEnds bound c key colon) : atMappingKey bound c = .ok true := by
  -- A quoted key is read once to see that a colon follows.
  unfold Yaml.atMappingKey
  simp [Cursor.atQuote, ends.quote, ends.read, bind, Except.bind, ends.unspaced, ends.there]

/-- The key is read with its colon. -/
theorem readKey (ends : KeyEnds bound c key colon) :
    readKey bound c = .ok ((key, ⟨c.offset, colon.offset⟩), colon.next) := by
  unfold Yaml.readKey readKeyText
  rw [ends.quote]
  simp only [ends.read, bind, Except.bind, ends.unspaced, ends.there, if_true]

/-- An entry with nothing more of the mapping behind it is the last one. -/
theorem readBlockEntries_last {seen : List String}
    (ends : KeyEnds document.length s.cursor key colon) (new : key ∉ seen)
    (read : node (s.moveTo colon.next) = .ok (child, t)) (skipped : t.skipLayout = u)
    (left : Left column u.cursor) :
    readBlockEntries document node column (count + 1) seen s =
      .ok (([⟨key, ⟨s.cursor.offset, colon.offset⟩, child⟩],
        reach colon.next.offset child), u) := by
  -- The text has ended, or what follows stands further left.
  have ended : (u.cursor.atEnd || u.cursor.atDocumentMarker || u.cursor.column < column) = true := by
    rcases left with nothing | left
    · simp [Cursor.atEnd, nothing]
    · simp [left]
  unfold readBlockEntries
  simp only [ends.readKey, bind, Except.bind, refuseRepeated_new new, read, skipped, ended, if_true]

/-- An entry with another key at the column behind it has more entries behind it. -/
theorem readBlockEntries_more {seen : List String} {rest : List (Entry Node)} {stop : Nat}
    {last : State} (ends : KeyEnds document.length s.cursor key colon) (new : key ∉ seen)
    (read : node (s.moveTo colon.next) = .ok (child, t)) (skipped : t.skipLayout = u)
    (level : u.cursor.column = column) (quote : u.cursor.peek = some '"')
    (more : readBlockEntries document node column count (key :: seen) u =
      .ok ((rest, stop), last)) :
    readBlockEntries document node column (count + 1) seen s =
      .ok ((⟨key, ⟨s.cursor.offset, colon.offset⟩, child⟩ :: rest,
        max (reach colon.next.offset child) stop), last) := by
  have opens := opens_of_quote quote
  -- A quote at the column is neither too deep nor a dash.
  have noDash : u.cursor.atIndicator '-' = false := by
    simp [Cursor.atIndicator, quote]
  -- The checks behind an entry ask for the end, a marker, the column and a dash.
  unfold readBlockEntries
  simp only [ends.readKey, bind, Except.bind, refuseRepeated_new new, read, skipped, opens.there,
    opens.notMarker, level, noDash, Nat.lt_irrefl, decide_false, Bool.or_false, Bool.false_eq_true,
    if_false, more]

end KeyEnds

/-! ### Collections -/

variable {children : Children} {margin emptyAt : Nat} {place : Place} {crossed : Bool}

/-- A dash begins a sequence where one may stand: not behind the colon on the line of a key, and
not left of the margin, but for a mapping value at the column of its key. -/
theorem readBlockContent_sequence {items : List Node} {stop : Nat}
    (dash : s.cursor.atIndicator '-' = true) (ownLine : crossed = false → place ≠ .value)
    (indented : crossed = true → margin ≤ column ∨ place = .value ∧ column + 1 = margin)
    (level : s.cursor.column = column)
    (read : readBlockItems (children.block (column + 1) .item) column document.length s =
      .ok ((items, stop), u)) :
    readBlockContent document children margin place crossed .none emptyAt s =
      .ok (.sequence items ⟨s.cursor.offset, stop⟩, u) := by
  subst level
  have opens := opens_of_dash dash
  have sequence : readBlockSequence document children s =
      .ok (.sequence items ⟨s.cursor.offset, stop⟩, u) := by
    unfold readBlockSequence
    simp only [read, bind, Except.bind]
  -- A dash is looked for before any other content.
  unfold readBlockContent
  simp only [opens.there, opens.notMarker, dash, Bool.or_false, Bool.false_eq_true, if_false,
    if_true, sequence]
  -- Behind a line break the column has to be right, and without one the place.
  cases crossed with
  | false => simp [ownLine rfl]
  | true =>
    rcases indented rfl with right | ⟨rfl, level⟩
    · simp [Nat.not_lt.mpr right]
    · simp [← level]

/-- A key begins a mapping where one may stand: not behind the colon on the line of a key, and not
left of the margin. -/
theorem readBlockContent_mapping {entries : List (Entry Node)} {stop : Nat}
    (ends : KeyEnds document.length s.cursor key colon)
    (ownLine : crossed = false → place ≠ .value) (indented : crossed = true → margin ≤ column)
    (level : s.cursor.column = column)
    (read : readBlockEntries document (children.block (column + 1) .value) column document.length []
      s = .ok ((entries, stop), u)) :
    readBlockContent document children margin place crossed .none emptyAt s =
      .ok (.mapping entries ⟨s.cursor.offset, stop⟩, u) := by
  -- A key begins with a quote, so no indicator comes and the mapping is the last case.
  subst level
  have opens := opens_of_quote ends.quote
  have mapping : readBlockMapping document children s =
      .ok (.mapping entries ⟨s.cursor.offset, stop⟩, u) := by
    unfold readBlockMapping
    simp only [read, bind, Except.bind]
  have noIndicator : ∀ indicator, indicator ≠ '"' → s.cursor.atIndicator indicator = false := by
    intro indicator other
    simp [Cursor.atIndicator, ends.quote, Ne.symm other]
  -- Neither guard applies: the column keeps to the margin, and no key stands on the line.
  have within : (crossed && decide (s.cursor.column < margin)) = false := by
    cases crossed with
    | false => rfl
    | true => simp [indented rfl]
  have sameLine : (!crossed && decide (place = .value)) = false := by
    cases crossed with
    | false => simp [ownLine rfl]
    | true => rfl
  unfold readBlockContent
  simp only [opens.there, opens.notMarker, noIndicator '-' (by decide), noIndicator '?' (by decide),
    within, sameLine, Bool.or_false, Bool.false_eq_true, if_false, ends.quote]
  unfold readMappingOrScalar
  simp [ends.atMappingKey, bind, Except.bind, Properties.isEmpty, Properties.none, mapping]

end SpecTrace.Yaml
