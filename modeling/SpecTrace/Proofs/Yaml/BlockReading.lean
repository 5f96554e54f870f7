import SpecTrace.Document.Format
import SpecTrace.Proofs.Number.Written
import SpecTrace.Proofs.Yaml.BlockEntries

/-! Every text in block style is read as the value it was written for. -/

namespace SpecTrace

open Grammar BlockStyle

namespace Yaml

variable {text document : List Char} {s : State}

/-! ### Values on a line -/

/-- A string without unicode escapes of surrogates is one that YAML reads. -/
theorem quoted_codeUnit {value : String} (quoted : Quoted (loneUnit? hexUnit?) text value) :
    Quoted codeUnit? text value := by
  -- Both readers leave out surrogates, and agree on all other digits.
  refine quoted.carries.agrees _ fun digits member unit known => ?_
  obtain ⟨read, alone⟩ := Option.filter_eq_some_iff.mp known
  exact Option.filter_eq_some_iff.mpr ⟨readNatural?_of_hexUnit? member read, alone⟩

/-- What is written on a line is derived as the value. -/
theorem value_of_inline {value : Json} (written : Inline text value) (proper : value.Proper)
    (start : Nat) :
    ∃ node, Value codeUnit? start text node ∧ node.toJson = value := by
  -- What is written on a line is a scalar or an empty collection.
  have leaf : ∀ {text : List Char} {value : Scalar}, Leaf codeUnit? text value →
      ∃ node, Value codeUnit? start text node ∧ node.toJson = value.toJson :=
    fun leaf => ⟨_, .leaf leaf, rfl⟩
  -- Scalars are leaves of the grammar, and empty collections have no white space inside.
  cases written with
  | null => exact @leaf _ .null (.word (by simp [words, Json.compact]))
  | @bool value =>
    cases value with
    | true => exact @leaf _ (.bool true) (.word (by simp [words, Json.compact]))
    | false => exact @leaf _ (.bool false) (.word (by simp [words, Json.compact]))
  | @number value =>
    cases proper with
    | number inRange =>
      obtain ⟨parts, number, same⟩ := value.spelled inRange
      exact leaf (.number number same)
  | string quoted => exact leaf (.string (quoted_codeUnit quoted))
  | emptyArray => exact ⟨_, .emptyArray .nil, rfl⟩
  | emptyObject => exact ⟨_, .emptyObject .nil, rfl⟩

/-- A value on a line is read as a node with the value. -/
theorem read_inline {value : Json} {after : Cursor} {margin room emptyAt : Nat} {place : Place}
    (written : Inline text value) (proper : value.Proper) (passed : s.cursor.Passes text after)
    (ends : LineEnds margin after) (enough : s.cursor.left ≤ document.length)
    (fits : value.depth + 1 ≤ room) :
    Opens s.cursor ∧ ∃ node, readBlockContent document
      ⟨readBlockNode document room, readFlowNode document room⟩ margin place false .none emptyAt s =
        .ok (node, s.moveTo after) ∧ node.toJson = value := by
  obtain ⟨node, derived, rfl⟩ := value_of_inline written proper s.cursor.offset
  -- The value is the same for the reader of flow nodes and for that of scalars on a line.
  obtain ⟨first, starts⟩ := starts_of_value derived passed
  exact ⟨starts.opens, node, readBlockContent_value derived passed rfl ends enough
    (Node.distinct_of_proper proper) fits, rfl⟩

/-! ### Collections -/

/-- The first entry of a sequence is a dash. -/
theorem items_dash {column : Nat} {values : List Json} {c d : Cursor}
    (items : Items column text values) (passed : c.Passes text d) : c.atIndicator '-' = true := by
  -- The dash is written in front of the first child.
  cases items with
  | @last _ text _ child =>
    rw [← List.append_nil text] at passed
    exact atIndicator_of_child child passed
  | more child line others => exact atIndicator_of_child child passed

/-- The first entry of a mapping begins with a key. -/
theorem entries_key {column bound : Nat} {members : List (String × Json)} {c d : Cursor}
    (entries : Entries column text members) (passed : c.Passes text d) (enough : c.left ≤ bound) :
    ∃ key colon, KeyEnds bound c key colon := by
  -- Whether it is the last one or not, the first entry begins with its key.
  cases entries with
  | @last _ name text key _ quoted child =>
    rw [← List.append_nil text] at passed
    obtain ⟨colon, ends, _⟩ := keyEnds (quoted_codeUnit quoted) child passed enough
    exact ⟨key, colon, ends⟩
  | @more _ _ _ _ _ key _ _ quoted child line others =>
    obtain ⟨colon, ends, _⟩ := keyEnds (quoted_codeUnit quoted) child passed enough
    exact ⟨key, colon, ends⟩

/-- A collection opens a node. -/
theorem collection_opens {column : Nat} {value : Json} {c d : Cursor}
    (written : Collection column text value) (passed : c.Passes text d) : Opens c := by
  cases written with
  | array items => exact opens_of_dash (items_dash items passed)
  | object entries =>
    obtain ⟨key, colon, ends⟩ := entries_key entries passed (Nat.le_refl _)
    exact opens_of_quote ends.quote

mutual

/-- What stands behind the mark of an entry is read as a node with the value, and the next entry is
found behind it. A collection needs one level of room more than what is in it, and a scalar in it
two. -/
-- By recursion on the derivation, one case for each way of writing. Each is led to what the reader
-- does there, and to the place where the reader goes on.
theorem read_child : ∀ {isValue : Bool} {column : Nat} {text : List Char} {value : Json},
    Child isValue column text value →
    ∀ (document : List Char) (s : State) (after next : Cursor) (room : Nat) (place : Place),
    s.cursor.Passes text after → Ahead after next → Closes isValue column next →
    s.cursor.left ≤ document.length → (isValue = true → place = .value) → value.Proper →
    value.depth + 2 ≤ room →
    ∃ node t, readBlockNode document room (column + 1) place s = .ok (node, t) ∧
      t.skipLayout = s.moveTo next ∧ node.toJson = value
  | _, _, _, _, @Child.inline isValue column text value written => by
    rintro document s after next room place passed ahead closes enough _ proper fits
    obtain ⟨room, rfl⟩ : ∃ n, room = n + 1 := ⟨room - 1, by omega⟩
    -- One space stands in front of the value, and the line ends behind it.
    have space := Cursor.Passes.next passed.peek
    have left := space.left
    have line : LineEnds (column + 1) after := ahead.lineEnds (closes.left (Nat.lt_succ_self _))
    have inside : (s.moveTo s.cursor.next).cursor.Passes text after := passed.tail
    obtain ⟨opens, node, read, same⟩ := @read_inline _ document _ _ _ _ room s.cursor.offset place
      written proper inside line (by show s.cursor.next.left ≤ _; omega) (by omega)
    have blank : IsSpace [' '] := by simp [IsSpace]
    refine ⟨node, s.moveTo after, ?_, ahead.skipLayout s, same⟩
    rw [readBlockNode_opens space blank opens]
    exact read
  | _, _, _, _, @Child.nested isValue column inner gap text value line deeper written => by
    rintro document s after next room place passed ahead closes enough _ proper fits
    obtain ⟨room, rfl⟩ : ∃ n, room = n + 1 := ⟨room - 1, by omega⟩
    rw [← List.append_assoc] at passed
    obtain ⟨c, spaced, inside⟩ := passed.split
    have left := spaced.left
    -- The collection starts right of the column of its parent, as the margin asks.
    have columns : c.column = inner := column_of_newLine line spaced
    obtain ⟨node, read, same⟩ := read_collection written document (s.moveTo c) after next room
      (column + 1) place true s.cursor.offset inside ahead (closes.left deeper) columns
      (by show c.left ≤ _; omega) nofun (fun _ => deeper) proper (by omega)
    exact ⟨node, s.moveTo next,
      (readBlockNode_newLine line spaced (collection_opens written inside)).trans read,
      ahead.skipped s, same⟩
  | _, _, _, _, @Child.level column gap text items line written => by
    rintro document s after next room place passed ahead closes enough atValue proper fits
    obtain ⟨room, rfl⟩ : ∃ n, room = n + 1 := ⟨room - 1, by omega⟩
    -- A sequence left of the margin is read behind a colon only.
    cases atValue rfl
    rw [← List.append_assoc] at passed
    obtain ⟨c, spaced, inside⟩ := passed.split
    have left := spaced.left
    have enoughInside : (s.moveTo c).cursor.left ≤ document.length := by
      show c.left ≤ _
      omega
    have columns : (s.moveTo c).cursor.column = column := column_of_newLine line spaced
    obtain ⟨nodes, stop, read, same⟩ := read_items written document (s.moveTo c) after next room
      document.length inside ahead closes enoughInside enoughInside proper.items
      (Json.items_fit fits)
    have dash := items_dash written inside
    exact ⟨_, s.moveTo next, (readBlockNode_newLine line spaced (opens_of_dash dash)).trans
      (readBlockContent_sequence dash nofun (fun _ => Or.inr ⟨rfl, rfl⟩) columns read),
      ahead.skipped s, by rw [Node.toJson, same]⟩

/-- A collection is read from its first entry on as a node with the value, up to the next entry
outside. -/
theorem read_collection : ∀ {column : Nat} {text : List Char} {value : Json},
    Collection column text value →
    ∀ (document : List Char) (s : State) (after next : Cursor) (room margin : Nat) (place : Place)
      (crossed : Bool) (emptyAt : Nat),
    s.cursor.Passes text after → Ahead after next → Left column next → s.cursor.column = column →
    s.cursor.left ≤ document.length → (crossed = false → place ≠ .value) →
    (crossed = true → margin ≤ column) → value.Proper → value.depth + 1 ≤ room →
    ∃ node, readBlockContent document ⟨readBlockNode document room, readFlowNode document room⟩
      margin place crossed .none emptyAt s = .ok (node, s.moveTo next) ∧ node.toJson = value
  | _, _, _, @Collection.array column text items written => by
    rintro document s after next room margin place crossed emptyAt passed ahead left columns enough
      ownLine indented proper fits
    -- What follows stands left of the column of the items.
    obtain ⟨nodes, stop, read, same⟩ := read_items written document s after next room
      document.length passed ahead (Or.inl left) enough enough proper.items (Json.items_fit
        (Nat.succ_le_succ fits))
    exact ⟨_, readBlockContent_sequence (items_dash written passed) ownLine
      (fun line => Or.inl (indented line)) columns read, by rw [Node.toJson, same]⟩
  | _, _, _, @Collection.object column text members written => by
    rintro document s after next room margin place crossed emptyAt passed ahead left columns enough
      ownLine indented proper fits
    -- The first key tells the mapping from a scalar, and no key was seen before.
    obtain ⟨key, colon, ends⟩ := entries_key written passed enough
    obtain ⟨nodes, stop, read, same⟩ := read_entries written document s after next room
      document.length [] passed ahead left enough enough proper.keys (by simp) proper.members
      (Json.members_fit (Nat.succ_le_succ fits))
    exact ⟨_, readBlockContent_mapping ends ownLine indented columns read,
      by rw [Node.toJson, same]⟩

/-- Items are read one by one, up to the next entry outside. -/
theorem read_items : ∀ {column : Nat} {text : List Char} {values : List Json},
    Items column text values →
    ∀ (document : List Char) (s : State) (after next : Cursor) (room count : Nat),
    s.cursor.Passes text after → Ahead after next → Closes true column next →
    s.cursor.left ≤ document.length → s.cursor.left ≤ count → (∀ value ∈ values, value.Proper) →
    (∀ value ∈ values, value.depth + 2 ≤ room) →
    ∃ items stop, readBlockItems (readBlockNode document room (column + 1) .item) column count s =
      .ok ((items, stop), s.moveTo next) ∧ Node.itemsToJson items = values
  | _, _, _, @Items.last column text value child => by
    rintro document s after next room count passed ahead closes enough counted proper fits
    have left := (Cursor.Passes.next passed.peek).left
    simp only [List.length_singleton] at left
    obtain ⟨count, rfl⟩ : ∃ n, count = n + 1 := ⟨count - 1, by omega⟩
    obtain ⟨node, t, read, skipped, same⟩ := read_child child document s.next after next room .item
      passed.tail ahead closes.item (by show s.cursor.next.left ≤ _; omega) nofun
      (proper _ List.mem_cons_self) (fits _ List.mem_cons_self)
    -- What follows closes the sequence, too.
    refine ⟨[node], _, readBlockItems_last read skipped ahead.not_marker closes, ?_⟩
    rw [Node.itemsToJson, same]
    rfl
  | _, _, _, @Items.more column text gap rest value values child line others => by
    rintro document s after next room count passed ahead closes enough counted proper fits
    have left := (Cursor.Passes.next passed.peek).left
    simp only [List.length_singleton] at left
    obtain ⟨count, rfl⟩ : ∃ n, count = n + 1 := ⟨count - 1, by omega⟩
    -- The next dash stands behind the child on a new line.
    obtain ⟨d, e, first, spaced, second, columns, fewer⟩ := passes_newLine line passed.tail
    have dash := items_dash others second
    obtain ⟨node, t, read, skipped, same⟩ := read_child child document s.next d e room .item first
      (ahead_of_newLine line spaced (opens_of_dash dash)) (Or.inr ⟨columns, nofun⟩)
      (by show s.cursor.next.left ≤ _; omega) nofun (proper _ List.mem_cons_self)
      (fits _ List.mem_cons_self)
    obtain ⟨nodes, stop, more, rests⟩ := read_items others document (s.next.moveTo e) after next
      room count second ahead closes (by show e.left ≤ _; omega) (by show e.left ≤ _; omega)
      (fun later member => proper later (List.mem_cons_of_mem _ member))
      (fun later member => fits later (List.mem_cons_of_mem _ member))
    refine ⟨node :: nodes, _, readBlockItems_more read skipped columns dash more, ?_⟩
    rw [Node.itemsToJson, same, rests]

/-- Entries are read one by one, up to the next entry outside. -/
theorem read_entries : ∀ {column : Nat} {text : List Char} {members : List (String × Json)},
    Entries column text members →
    ∀ (document : List Char) (s : State) (after next : Cursor) (room count : Nat)
      (seen : List String),
    s.cursor.Passes text after → Ahead after next → Left column next →
    s.cursor.left ≤ document.length → s.cursor.left ≤ count →
    (members.map Prod.fst).Nodup → (∀ member ∈ members, member.1 ∉ seen) →
    (∀ member ∈ members, member.2.Proper) → (∀ member ∈ members, member.2.depth + 2 ≤ room) →
    ∃ entries stop,
      readBlockEntries document (readBlockNode document room (column + 1) .value) column count seen
        s = .ok ((entries, stop), s.moveTo next) ∧ Node.entriesToJson entries = members
  | _, _, _, @Entries.last column name text key value quoted child => by
    rintro document s after next room count seen passed ahead left enough counted keys fresh proper
      fits
    -- The last entry ends where its value does.
    rw [← List.append_nil text] at passed
    obtain ⟨colon, ends, named, behind⟩ := keyEnds (quoted_codeUnit quoted) child passed enough
    rw [List.append_nil] at behind
    have leftName := named.left
    simp only [List.length_append, List.length_singleton] at leftName
    obtain ⟨count, rfl⟩ : ∃ n, count = n + 1 := ⟨count - 1, by omega⟩
    obtain ⟨node, t, read, skipped, same⟩ := read_child child document (s.moveTo colon.next) after
      next room .value behind ahead (Or.inl left) (by show colon.next.left ≤ _; omega)
      (fun _ => rfl) (proper _ List.mem_cons_self) (fits _ List.mem_cons_self)
    refine ⟨_, _, ends.readBlockEntries_last (fresh _ List.mem_cons_self) read skipped left, ?_⟩
    simp [Node.entriesToJson, same]
  | _, _, _, @Entries.more column name text gap rest key value members quoted child line others =>
    by
    rintro document s after next room count seen passed ahead left enough counted keys fresh proper
      fits
    obtain ⟨colon, ends, named, behind⟩ := keyEnds (quoted_codeUnit quoted) child passed enough
    have leftName := named.left
    simp only [List.length_append, List.length_singleton] at leftName
    obtain ⟨count, rfl⟩ : ∃ n, count = n + 1 := ⟨count - 1, by omega⟩
    -- The next key stands behind the child on a new line.
    obtain ⟨d, e, first, spaced, second, columns, fewer⟩ := passes_newLine line behind
    obtain ⟨_, _, later⟩ := entries_key others second (Nat.le_refl _)
    obtain ⟨node, t, read, skipped, same⟩ := read_child child document (s.moveTo colon.next) d e
      room .value first (ahead_of_newLine line spaced (opens_of_quote later.quote))
      (Or.inr ⟨columns, fun _ => later.quote⟩) (by show colon.next.left ≤ _; omega) (fun _ => rfl)
      (proper _ List.mem_cons_self) (fits _ List.mem_cons_self)
    obtain ⟨notLater, distinct⟩ := List.nodup_cons.mp keys
    -- The keys that follow are neither this one nor one of those seen before.
    have unseen : ∀ member ∈ members, member.1 ∉ key :: seen := by
      intro member inside known
      rcases List.mem_cons.mp known with same | known
      · exact notLater (List.mem_map.mpr ⟨member, inside, same⟩)
      · exact fresh member (List.mem_cons_of_mem _ inside) known
    obtain ⟨entries, stop, more, rests⟩ := read_entries others document (s.moveTo e) after next room
      count (key :: seen) second ahead left (by show e.left ≤ _; omega) (by show e.left ≤ _; omega)
      distinct unseen (fun later member => proper later (List.mem_cons_of_mem _ member))
      (fun later member => fits later (List.mem_cons_of_mem _ member))
    refine ⟨_, _, ends.readBlockEntries_more (fresh _ List.mem_cons_self) read skipped columns
      later.quote more, ?_⟩
    simp [Node.entriesToJson, same, rests]

end

/-! ### Documents -/

/-- A text in block style is read as a tree with the value. -/
theorem read_of_blockDocument {value : Json} (written : BlockStyle.Document text value)
    (proper : value.Proper) (fits : value.depth + 2 ≤ maxDepth) :
    ∃ root, read text = .ok root ∧ root.toJson = value := by
  -- The text is followed to its end, behind which nothing is left.
  obtain ⟨last, passed, nothing⟩ := (Cursor.start text).passes_rest
  have rest : (Cursor.start text).rest = text := rfl
  rw [rest] at passed
  have whole : (Cursor.start text).left = text.length := rfl
  have ended : Stops inLayout last.rest := stops_of_end nothing
  cases written with
  -- A value on a line has nothing but white space up to both ends of the text.
  | @inline before middle behind _ blank line closes =>
    obtain ⟨c, ahead, more⟩ := passed.split
    obtain ⟨after, inside, ends⟩ := more.split
    have left := ahead.left
    generalize before ++ (middle ++ behind) = text at ahead left whole ⊢
    have lineEnds : LineEnds 0 after := lineEnds_of_space closes ends ended (Or.inl nothing)
    have enough : c.left ≤ text.length := by omega
    obtain ⟨opens, root, content, same⟩ := @read_inline middle text ⟨c, [], 0⟩ value after 0 511
      c.offset .document line proper inside lineEnds enough (Nat.le_of_succ_le_succ fits)
    rw [← skipByteOrderMark_opens ahead blank opens] at ahead
    refine ⟨root, read_of_content ahead blank opens content ?_, same⟩
    show IsSpace after.rest
    rw [ends.rest, nothing, List.append_nil]
    exact closes
  | @collection column gap middle behind _ lines written closes =>
    obtain ⟨c, ahead, more⟩ := passed.split
    obtain ⟨after, inside, ends⟩ := more.split
    have left := ahead.left
    -- The first line may be that of the first entry, or come further down.
    obtain ⟨blank, columns⟩ : IsSpace (gap ++ indentation column) ∧ c.column = column := by
      rcases lines with rfl | line
      · exact ⟨isSpace_indentation column, (column_of_indentation ahead).trans (Nat.zero_add _)⟩
      · exact ⟨(newLine_space line column).1, column_of_newLine line ahead⟩
    generalize (gap ++ indentation column) ++ (middle ++ behind) = text at ahead left whole ⊢
    have enough : c.left ≤ text.length := by omega
    have opens := collection_opens written inside
    obtain ⟨root, content, same⟩ := read_collection written text ⟨c, [], 0⟩ after last 511 0
      .document false c.offset inside ⟨⟨behind, closes, ends, Or.inl nothing⟩, Or.inl nothing⟩
      (Or.inl nothing) columns enough nofun nofun proper (Nat.le_of_succ_le_succ fits)
    rw [← skipByteOrderMark_opens ahead blank opens] at ahead
    refine ⟨root, read_of_content ahead blank opens content ?_, same⟩
    show IsSpace last.rest
    rw [nothing]
    exact .nil

end Yaml

/-- A text in block style is read back as the value it was written for. -/
theorem block_text_is_read_back {text : String} {value : Json}
    (written : BlockStyle.Document text.toList value) (proper : value.Proper)
    (fits : value.depth ≤ 500) : ∃ root, readDocument .yaml text = .ok root ∧ root.toJson = value :=
  -- The reader has room for 512 levels, and two of them are not for the value.
  Yaml.read_of_blockDocument written proper (Nat.le_trans (Nat.add_le_add_right fits 2) (by decide))

/-- Lines with a sequence at the column of its key and a mapping inside of it are read back. -/
theorem lines_are_read_back :
    ∃ root, readDocument .yaml "\"a\":\n- []\n-\n  \"x\": 1\n" = .ok root ∧
      root.toJson =
        .object [("a", .array [.array [], .object [("x", .number (.int 1))]])] := by
  -- The text is put together from the inside out.
  have line : NewLine ['\n'] := ⟨by simp [IsSpace], [], '\n', rfl, rfl⟩
  have key : ∀ c : Char, 0x20 ≤ c.toNat → c ≠ '"' → c ≠ '\\' →
      Quoted (loneUnit? hexUnit?) ['"', c, '"'] (String.ofList [c]) :=
    fun c graphic notQuote notEscape => .mk (.plain graphic notQuote notEscape .nil)
  have one : Inline ['1'] (.number (.int 1)) := @Inline.number (.int 1)
  have inner : Collection 2 "\"x\": 1".toList (.object [("x", .number (.int 1))]) :=
    .object (.last (key 'x' (by decide) (by decide) (by decide)) (.inline one))
  have items : Items 0 "- []\n-\n  \"x\": 1".toList
      [.array [], .object [("x", .number (.int 1))]] :=
    .more (.inline .emptyArray) line (.last (.nested line (by decide) inner))
  have written : Collection 0 "\"a\":\n- []\n-\n  \"x\": 1".toList
      (.object [("a", .array [.array [], .object [("x", .number (.int 1))]])]) :=
    .object (.last (key 'a' (by decide) (by decide) (by decide)) (.level line items))
  have proper : (Json.array [.array [], .object [("x", .number (.int 1))]]).Proper :=
    .array (List.forall_mem_cons.mpr ⟨.array (by simp), List.forall_mem_singleton.mpr
      (.object (by decide) (List.forall_mem_singleton.mpr (.number ⟨by decide, by decide⟩)))⟩)
  exact block_text_is_read_back (.collection (Or.inl rfl) written line.blank)
    (.object (by decide) (List.forall_mem_singleton.mpr proper)) (by decide)

end SpecTrace
