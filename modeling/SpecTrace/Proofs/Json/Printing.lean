import SpecTrace.Json.Printer
import SpecTrace.Proofs.Json.Escapes
import SpecTrace.Proofs.Number.Written

/-! What is printed is derived by the grammar with the value that was printed, so that it is read
back unchanged. -/

namespace SpecTrace

open Grammar

/-! ### Strings -/

/-- The digits of a control character. -/
theorem hexUnit?_control : ∀ code < 0x20,
    hexUnit? ['0', '0', Nat.digitChar (code / 16), Nat.digitChar (code % 16)] = some code := by
  decide

/-- A character is escaped so that it stands for itself. -/
theorem characters_escapedChar (c : Char) {text chars : List Char}
    (more : Characters hexUnit? text chars) :
    Characters hexUnit? (escapedChar c ++ text) (c :: chars) := by
  -- Seven characters are escaped by a letter, control characters by their code.
  have short : ∀ {letter d : Char}, c = d → (letter, d) ∈ escapes →
      Characters hexUnit? ('\\' :: letter :: text) (c :: chars) := by
    rintro letter d rfl known
    exact .escape known more
  unfold escapedChar
  -- The printer tries quote and backslash first, since a plain character must be neither.
  split
  · rename_i same
    exact short same (by simp [escapes])
  rename_i notQuote
  split
  · rename_i same
    exact short same (by simp [escapes])
  rename_i notEscape
  iterate 5
    split
    · rename_i same
      exact short same (by simp [escapes])
  split
  · rename_i control
    -- The code is below that of every surrogate.
    have alone : isSurrogate c.toNat = false := by
      simp only [isSurrogate, Bool.and_eq_false_iff, decide_eq_false_iff_not]
      omega
    have unit := Characters.unit (hexUnit?_control c.toNat control) alone more
    rw [Char.ofNat_toNat] at unit
    exact unit
  · exact .plain (by omega) notQuote notEscape more

/-- A string in quotes stands for itself. -/
theorem quoted_quotedText (value : String) : Quoted hexUnit? (quotedText value) value := by
  -- Each character is escaped for itself, so the text is derived character by character.
  have inside : ∀ chars : List Char, Characters hexUnit? (chars.flatMap escapedChar) chars := by
    intro chars
    induction chars with
    | nil => exact .nil
    | cons c rest ih =>
      rw [List.flatMap_cons]
      exact characters_escapedChar c ih
  have quoted := Quoted.mk (inside value.toList)
  rw [String.ofList_toList] at quoted
  exact quoted

/-! ### Collections -/

/-- A text is derived as a value, wherever it stands. -/
def Writes (text : List Char) (value : Json) : Prop :=
  ∀ start, ∃ node, Value hexUnit? start text node ∧ node.toJson = value

/-- A text is derived as a value with white space around it, wherever it stands. -/
def WritesElement (text : List Char) (value : Json) : Prop :=
  ∀ start, ∃ node, Element hexUnit? start text node ∧ node.toJson = value

/-- A text is derived as a member, wherever it stands. -/
def WritesMember (text : List Char) (member : String × Json) : Prop :=
  ∀ start, ∃ entry, Member hexUnit? start text entry ∧ (entry.key, entry.value.toJson) = member

/-- White space may stand in front of a value. -/
theorem Writes.element {text space : List Char} {value : Json} (writes : Writes text value)
    (blank : IsSpace space) : WritesElement (space ++ text) value := by
  intro start
  obtain ⟨node, derived, same⟩ := writes (start + byteLength space)
  -- Nothing stands behind the value.
  have element := Element.mk blank derived .nil
  rw [List.append_nil] at element
  exact ⟨node, element, same⟩

/-- A key, a colon and an element are a member; white space may stand in front. -/
theorem WritesElement.member {text space : List Char} {value : Json} (key : String)
    (writes : WritesElement text value) (blank : IsSpace space) :
    WritesMember (space ++ (quotedText key ++ ':' :: text)) (key, value) := by
  -- The value of the member starts behind the white space, the key and the colon.
  intro start
  obtain ⟨node, element, same⟩ :=
    writes (start + byteLength (space ++ (quotedText key ++ [])) + 1)
  have member := Member.mk blank (quoted_quotedText key) .nil element
  exact ⟨_, member, by rw [same]⟩

/-- Items with commas between them are derived. -/
theorem elements_separated {write : Json → List Char} {items : List Json} (filled : items ≠ [])
    (each : ∀ item ∈ items, WritesElement (write item) item) (start : Nat) :
    ∃ nodes, Elements hexUnit? start (Json.separated (items.map write)) nodes ∧
      Node.itemsToJson nodes = items := by
  induction items generalizing start with
  | nil => exact absurd rfl filled
  -- Behind the comma the other items are derived one by one from where they stand.
  | cons item rest ih =>
    obtain ⟨node, element, same⟩ := each item List.mem_cons_self start
    -- The last item has no comma behind it.
    cases rest with
    | nil => exact ⟨[node], .last element, by simp [Node.itemsToJson, same]⟩
    | cons second others =>
      obtain ⟨nodes, elements, rests⟩ := ih (List.cons_ne_nil second others)
        (fun later member => each later (List.mem_cons_of_mem _ member)) _
      exact ⟨node :: nodes, .more element elements, by simp [Node.itemsToJson, same, rests]⟩

/-- Members with commas between them are derived. -/
theorem members_separated {write : String × Json → List Char} {members : List (String × Json)}
    (filled : members ≠ []) (each : ∀ member ∈ members, WritesMember (write member) member)
    (start : Nat) :
    ∃ entries, Members hexUnit? start (Json.separated (members.map write)) entries ∧
      Node.entriesToJson entries = members := by
  induction members generalizing start with
  | nil => exact absurd rfl filled
  -- Behind the comma the other members are derived one by one from where they stand.
  | cons member rest ih =>
    obtain ⟨⟨key, span, value⟩, derived, same⟩ := each member List.mem_cons_self start
    -- The last member has no comma behind it.
    cases rest with
    | nil => exact ⟨[_], .last derived, by simpa [Node.entriesToJson] using same⟩
    | cons second others =>
      obtain ⟨entries, members, rests⟩ := ih (List.cons_ne_nil second others)
        (fun later inRest => each later (List.mem_cons_of_mem _ inRest)) _
      refine ⟨_ :: entries, .more derived members, ?_⟩
      simpa [Node.entriesToJson, rests] using same

/-- Items in brackets are an array. -/
theorem writes_array {write : Json → List Char} {items : List Json} {space : List Char}
    (filled : items ≠ []) (each : ∀ item ∈ items, WritesElement (write item) item)
    (blank : IsSpace space) :
    Writes ('[' :: (Json.separated (items.map write) ++ space ++ [']'])) (.array items) := by
  intro start
  -- The items begin one byte behind the bracket.
  obtain ⟨nodes, elements, same⟩ := elements_separated filled each (start + 1)
  exact ⟨_, .array (elements.closed blank), by rw [Node.toJson, same]⟩

/-- Members in braces are an object. -/
theorem writes_object {write : String × Json → List Char} {members : List (String × Json)}
    {space : List Char} (filled : members ≠ [])
    (each : ∀ member ∈ members, WritesMember (write member) member) (blank : IsSpace space) :
    Writes ('\x7b' :: (Json.separated (members.map write) ++ space ++ ['\x7d']))
      (.object members) := by
  intro start
  -- The members begin one byte behind the brace.
  obtain ⟨entries, derived, same⟩ := members_separated filled each (start + 1)
  exact ⟨_, .object (derived.closed blank), by rw [Node.toJson, same]⟩

/-! ### Values -/

namespace Json

/-- The texts of the items, one by one. -/
theorem compactItems_eq_map (items : List Json) : compactItems items = items.map compact := by
  induction items with
  | nil => rfl
  | cons item rest ih => simp [compactItems, ih]

/-- The texts of the members, one by one. -/
theorem compactMembers_eq_map (members : List (String × Json)) :
    compactMembers members =
      members.map fun member => quotedText member.1 ++ ':' :: member.2.compact := by
  induction members with
  | nil => rfl
  | cons member rest ih => simp [compactMembers, ih]

/-- The indented texts of the items, one by one. -/
theorem prettyItems_eq_map (level : Nat) (items : List Json) :
    prettyItems level items = items.map (pretty level) := by
  induction items with
  | nil => rfl
  | cons item rest ih => simp [prettyItems, ih]

/-- The indented texts of the members, one by one. -/
theorem prettyMembers_eq_map (level : Nat) (members : List (String × Json)) :
    prettyMembers level members =
      members.map fun member => quotedText member.1 ++ ':' :: ' ' :: member.2.pretty level := by
  induction members with
  | nil => rfl
  | cons member rest ih => simp [prettyMembers, ih]

/-- The indentation of a line is white space. -/
theorem isSpace_lineAt (level : Nat) : IsSpace (lineAt level) := by
  intro c member
  rcases List.mem_cons.mp member with rfl | inLine
  · simp
  · simp [(List.mem_replicate.mp inLine).2]

end Json

/-- A leaf is written by itself. -/
theorem writes_leaf {text : List Char} {value : Scalar} (leaf : Leaf hexUnit? text value) :
    Writes text value.toJson :=
  fun _ => ⟨_, .leaf leaf, rfl⟩

/-- Brackets without items are an empty array. -/
theorem writes_emptyArray : Writes ['[', ']'] (.array []) :=
  fun _ => ⟨_, .emptyArray .nil, rfl⟩

/-- Braces without members are an empty object. -/
theorem writes_emptyObject : Writes ['\x7b', '\x7d'] (.object []) :=
  fun _ => ⟨_, .emptyObject .nil, rfl⟩

mutual

/-- The text without white space is derived as the value. -/
-- By recursion on the value; a number in range is spelled so that it is read as itself.
theorem writes_compact : ∀ {value : Json}, value.Proper → Writes value.compact value
  | .null, _ => @writes_leaf _ .null (.word (by simp [words, Json.compact]))
  | .bool true, _ => @writes_leaf _ (.bool true) (.word (by simp [words, Json.compact]))
  | .bool false, _ => @writes_leaf _ (.bool false) (.word (by simp [words, Json.compact]))
  | .number value, .number inRange => by
    obtain ⟨parts, number, same⟩ := value.spelled inRange
    exact writes_leaf (.number number same)
  | .string value, _ => writes_leaf (.string (quoted_quotedText value))
  | .array [], _ => writes_emptyArray
  -- Without white space the items follow the commas at once.
  | .array (item :: rest), proper => by
    have each := writes_compactItems proper.items
    have array := @writes_array Json.compact (item :: rest) [] (by simp)
      (fun i member => (each i member).element .nil) .nil
    rw [← Json.compactItems_eq_map] at array
    simpa [Json.compact] using array
  | .object [], _ => writes_emptyObject
  | .object (member :: rest), proper => by
    have each := writes_compactMembers proper.members
    have object := @writes_object (fun member => quotedText member.1 ++ ':' :: member.2.compact)
      (member :: rest) [] (by simp) (fun m inside => ((each m inside).element .nil).member m.1 .nil)
      .nil
    rw [← Json.compactMembers_eq_map] at object
    simpa [Json.compact] using object

theorem writes_compactItems : ∀ {items : List Json}, (∀ item ∈ items, item.Proper) →
    ∀ item ∈ items, Writes item.compact item
  | [], _ => by simp
  | _ :: _, proper =>
    List.forall_mem_cons.mpr ⟨writes_compact (proper _ List.mem_cons_self),
      writes_compactItems fun item member => proper item (List.mem_cons_of_mem _ member)⟩

theorem writes_compactMembers : ∀ {members : List (String × Json)},
    (∀ member ∈ members, member.2.Proper) → ∀ member ∈ members, Writes member.2.compact member.2
  | [], _ => by simp
  | (_, _) :: _, proper =>
    List.forall_mem_cons.mpr ⟨writes_compact (proper _ List.mem_cons_self),
      writes_compactMembers fun member inRest => proper member (List.mem_cons_of_mem _ inRest)⟩

end

mutual

/-- The indented text is derived as the value. -/
theorem writes_pretty : ∀ {value : Json}, value.Proper → ∀ level, Writes (value.pretty level) value
  | .null, _, _ => @writes_leaf _ .null (.word (by simp [words, Json.pretty]))
  | .bool true, _, _ => @writes_leaf _ (.bool true) (.word (by simp [words, Json.pretty]))
  | .bool false, _, _ => @writes_leaf _ (.bool false) (.word (by simp [words, Json.pretty]))
  | .number value, .number inRange, _ => by
    obtain ⟨parts, number, same⟩ := value.spelled inRange
    exact writes_leaf (.number number same)
  | .string value, _, _ => writes_leaf (.string (quoted_quotedText value))
  | .array [], _, _ => writes_emptyArray
  | .array (item :: rest), proper, level => by
    have each := writes_prettyItems proper.items (level + 1)
    -- Each item stands on a line of its own, one level further in than the brackets.
    have array := @writes_array (fun item => Json.lineAt (level + 1) ++ item.pretty (level + 1))
      (item :: rest) (Json.lineAt level) (by simp)
      (fun i member => (each i member).element (Json.isSpace_lineAt _)) (Json.isSpace_lineAt _)
    simpa [Json.pretty, Json.indentedBlock, Json.prettyItems, Json.prettyItems_eq_map,
      Function.comp_def] using array
  | .object [], _, _ => writes_emptyObject
  | .object (member :: rest), proper, level => by
    have each := writes_prettyMembers proper.members (level + 1)
    -- One space stands behind the colon, and a new line in front of the key.
    have space : IsSpace [' '] := by simp [IsSpace]
    have object := @writes_object
      (fun member => Json.lineAt (level + 1) ++
        (quotedText member.1 ++ ':' :: ([' '] ++ member.2.pretty (level + 1))))
      (member :: rest) (Json.lineAt level) (by simp)
      (fun m inside => ((each m inside).element space).member m.1 (Json.isSpace_lineAt _))
      (Json.isSpace_lineAt _)
    simpa [Json.pretty, Json.indentedBlock, Json.prettyMembers, Json.prettyMembers_eq_map,
      Function.comp_def] using object

/-- The indented texts of items are derived as the items. -/
theorem writes_prettyItems : ∀ {items : List Json}, (∀ item ∈ items, item.Proper) →
    ∀ level, ∀ item ∈ items, Writes (item.pretty level) item
  | [], _, _ => by simp
  | _ :: _, proper, level =>
    List.forall_mem_cons.mpr ⟨writes_pretty (proper _ List.mem_cons_self) level,
      writes_prettyItems (fun item member => proper item (List.mem_cons_of_mem _ member)) level⟩

/-- The indented texts of the values of members are derived as the values. -/
theorem writes_prettyMembers : ∀ {members : List (String × Json)},
    (∀ member ∈ members, member.2.Proper) →
      ∀ level, ∀ member ∈ members, Writes (member.2.pretty level) member.2
  -- By recursion on the members, whose values are written as any value is.
  | [], _, _ => by simp
  | (_, _) :: _, proper, level =>
    List.forall_mem_cons.mpr ⟨writes_pretty (proper _ List.mem_cons_self) level,
      writes_prettyMembers (fun member inRest => proper member (List.mem_cons_of_mem _ inRest))
        level⟩

end

/-- A text that is derived as a value is read as the value. -/
theorem read_of_writes {text : List Char} {value : Json} (writes : Writes text value)
    (proper : value.Proper) (fits : value.depth ≤ 512) :
    ∃ root, readDocument .json (String.ofList text) = .ok root ∧ root.toJson = value := by
  -- The text is one value without any white space around it.
  obtain ⟨root, derived, rfl⟩ := writes 0
  have unmarked : text.head? ≠ some '\uFEFF' := by
    obtain ⟨first, rest, rfl, begins⟩ := derived.first
    simpa using begins.ne (by decide)
  have element : Element hexUnit? 0 text root := by
    have spaced := Element.mk .nil derived .nil
    rwa [List.nil_append, List.append_nil] at spaced
  have document : Document hexUnit? (String.ofList text).toList root := by
    rw [String.toList_ofList]
    exact .plain unmarked element
  exact ⟨root, read_of_document document (Node.distinct_of_proper proper) fits, rfl⟩

/-- Both texts of a value that is nested at most 512 deep are read back as the value. -/
theorem printed_json_is_read_back (value : Json) (proper : value.Proper)
    (fits : value.depth ≤ 512) :
    (∃ root, readDocument .json value.compactText = .ok root ∧ root.toJson = value) ∧
      ∃ root, readDocument .json value.prettyText = .ok root ∧ root.toJson = value :=
  ⟨read_of_writes (writes_compact proper) proper fits,
    read_of_writes (writes_pretty proper 0) proper fits⟩

/-- A list with numbers of both kinds, a line break and empty collections is read back from its
lines. -/
theorem list_is_read_back :
    ∃ root, readDocument .json (Json.array [.number (.int (-5)),
        .number (.float ⟨false, 4609434218613702656⟩), .object [("k", .string "a\n")],
        .object [], .array []]).prettyText = .ok root ∧
      root.toJson = .array [.number (.int (-5)), .number (.float ⟨false, 4609434218613702656⟩),
        .object [("k", .string "a\n")], .object [], .array []] := by
  -- The numbers are in range, and the one key is not repeated.
  have proper : ∀ item ∈ [.number (.int (-5)), .number (.float ⟨false, 4609434218613702656⟩),
      .object [("k", .string "a\n")], .object [], .array []], Json.Proper item := by
    simp only [List.forall_mem_cons, List.not_mem_nil, false_imp_iff, implies_true, and_true]
    exact ⟨.number ⟨by decide, by decide⟩, .number trivial,
      .object (by decide) (List.forall_mem_singleton.mpr .string), .object (by decide) (by simp),
      .array (by simp)⟩
  exact (printed_json_is_read_back _ (.array proper) (by decide)).2

end SpecTrace
