import SpecTrace.Document.Format
import SpecTrace.Proofs.Document.Spans
import SpecTrace.Proofs.Json.Parts

/-! A node of JSON text is read again from the bytes that it spans alone. -/

namespace SpecTrace

/-- The text that a span of a text cuts out. -/
def Span.cut (text : String) (span : Span) : String :=
  String.ofList (Yaml.textAt text.toList span)

/-- A part of a text is what its span cuts out. -/
theorem Span.cut_part {text : String} {front word back : List Char}
    (whole : text.toList = front ++ (word ++ back)) :
    (⟨byteLength front, byteLength front + byteLength word⟩ : Span).cut text =
      String.ofList word := by
  unfold cut Yaml.textAt
  rw [whole, dropBytes_append, Nat.add_sub_cancel_left, takeBytes_append]

namespace Node

variable {bytes : Nat}

mutual

/-- Where a tree stands does not matter to its value. -/
theorem toJson_shift : ∀ node : Node, (node.shift bytes).toJson = node.toJson
  | .scalar _ _ => rfl
  | .sequence items _ => by rw [shift, toJson, toJson, itemsToJson_shift items]
  | .mapping entries _ => by rw [shift, toJson, toJson, entriesToJson_shift entries]

/-- Where items stand does not matter to their values. -/
theorem itemsToJson_shift : ∀ items : List Node,
    itemsToJson (shiftItems bytes items) = itemsToJson items
  | [] => rfl
  | item :: rest => by
    rw [shiftItems, itemsToJson, itemsToJson, toJson_shift item, itemsToJson_shift rest]

/-- Where entries stand does not matter to their keys and values. -/
theorem entriesToJson_shift : ∀ entries : List (Entry Node),
    entriesToJson (shiftEntries bytes entries) = entriesToJson entries
  | [] => rfl
  | ⟨key, keySpan, value⟩ :: rest => by
    rw [shiftEntries, entriesToJson, entriesToJson, toJson_shift value, entriesToJson_shift rest]

end

/-- Where entries stand does not matter to their keys. -/
theorem keys_shiftEntries (entries : List (Entry Node)) :
    (shiftEntries bytes entries).map Entry.key = entries.map Entry.key := by
  induction entries with
  | nil => rfl
  | cons entry rest ih => rw [shiftEntries, List.map_cons, List.map_cons, ih]

mutual

/-- A tree repeats no key if the same tree elsewhere repeats none. -/
theorem distinct_of_shift : ∀ {node : Node}, (node.shift bytes).Distinct → node.Distinct
  | .scalar _ _, _ => .scalar
  | .sequence _ _, .sequence below => .sequence (items_distinct_of_shift below)
  | .mapping entries _, .mapping keys below => by
    rw [keys_shiftEntries] at keys
    exact .mapping keys (entries_distinct_of_shift below)

theorem items_distinct_of_shift : ∀ {items : List Node},
    (∀ item ∈ shiftItems bytes items, item.Distinct) → ∀ item ∈ items, item.Distinct
  | [], _ => List.forall_mem_nil _
  | _ :: _, distinct =>
    have both := List.forall_mem_cons.mp distinct
    List.forall_mem_cons.mpr ⟨distinct_of_shift both.1, items_distinct_of_shift both.2⟩

theorem entries_distinct_of_shift : ∀ {entries : List (Entry Node)},
    (∀ entry ∈ shiftEntries bytes entries, entry.value.Distinct) →
      ∀ entry ∈ entries, entry.value.Distinct
  | [], _ => List.forall_mem_nil _
  | ⟨_, _, _⟩ :: _, distinct =>
    have both := List.forall_mem_cons.mp distinct
    List.forall_mem_cons.mpr ⟨distinct_of_shift both.1, entries_distinct_of_shift both.2⟩

end

end Node

/-- The entry behind a number of further bytes. -/
def Entry.shift (bytes : Nat) (entry : Entry Node) : Entry Node :=
  ⟨entry.key, entry.keySpan.shift bytes, entry.value.shift bytes⟩

/-- A span that is given by its length is moved at its start. -/
theorem Span.shift_mk (start length bytes : Nat) :
    (⟨start, start + length⟩ : Span).shift bytes = ⟨start + bytes, start + bytes + length⟩ := by
  rw [shift, Nat.add_right_comm]

namespace Grammar

variable {unit? : List Char → Option Nat} {bytes : Nat}

/-! ### Derivations elsewhere -/

mutual

/-- A value is the same where its text begins a number of bytes earlier. -/
theorem Value.earlier : ∀ {here : Nat} (start : Nat) {text : List Char} {node : Node},
    Value unit? here text node → here = start + bytes →
      ∃ other, node = other.shift bytes ∧ Value unit? start text other
  -- The recursion is that of the grammar. A shift moves every start by the same number, and white
  -- space and spellings do not depend on it.
  | _, _, _, _, .leaf spelled, same =>
    ⟨_, by rw [Node.shift, Span.shift_mk, same], .leaf spelled⟩
  | _, _, _, _, .emptyArray blank, same =>
    ⟨_, by rw [Node.shift, Span.shift_mk, Node.shiftItems, same], .emptyArray blank⟩
  | _, start, _, _, .array inside, same => by
    obtain ⟨others, rfl, derived⟩ := inside.earlier (start + 1) (by omega)
    exact ⟨_, by rw [Node.shift, Span.shift_mk, same], .array derived⟩
  | _, _, _, _, .emptyObject blank, same =>
    ⟨_, by rw [Node.shift, Span.shift_mk, Node.shiftEntries, same], .emptyObject blank⟩
  | _, start, _, _, .object inside, same => by
    obtain ⟨others, rfl, derived⟩ := inside.earlier (start + 1) (by omega)
    exact ⟨_, by rw [Node.shift, Span.shift_mk, same], .object derived⟩

/-- An element is the same where its text begins a number of bytes earlier. -/
theorem Element.earlier : ∀ {here : Nat} (start : Nat) {text : List Char} {node : Node},
    Element unit? here text node → here = start + bytes →
      ∃ other, node = other.shift bytes ∧ Element unit? start text other
  | _, start, _, _, @Element.mk _ _ before _ _ _ opens value closes, same => by
    obtain ⟨other, rfl, derived⟩ := value.earlier (start + byteLength before) (by omega)
    exact ⟨other, rfl, .mk opens derived closes⟩

/-- Items are the same where their text begins a number of bytes earlier. -/
theorem Elements.earlier : ∀ {here : Nat} (start : Nat) {text : List Char} {items : List Node},
    Elements unit? here text items → here = start + bytes →
      ∃ others, items = Node.shiftItems bytes others ∧ Elements unit? start text others
  -- An item that follows starts behind a text that is as long as it was.
  | _, start, _, _, .last item, same => by
    obtain ⟨other, rfl, derived⟩ := item.earlier start same
    exact ⟨[other], rfl, .last derived⟩
  | _, start, _, _, @Elements.more _ _ text _ _ _ item rest, same => by
    obtain ⟨other, rfl, derived⟩ := item.earlier start same
    obtain ⟨others, rfl, more⟩ := rest.earlier (start + byteLength text + 1) (by omega)
    exact ⟨other :: others, rfl, .more derived more⟩

/-- A member is the same where its text begins a number of bytes earlier. -/
theorem Member.earlier : ∀ {here : Nat} (start : Nat) {text : List Char} {entry : Entry Node},
    Member unit? here text entry → here = start + bytes →
      ∃ other, entry = Entry.shift bytes other ∧ Member unit? start text other
  -- The value starts behind the key and the colon, which are as long as they were.
  | _, start, _, _, @Member.mk _ _ before name between _ _ _ opens quoted parts value, same => by
    obtain ⟨other, rfl, derived⟩ := value.earlier
      (start + byteLength (before ++ (name ++ between)) + 1) (by omega)
    refine ⟨_, ?_, .mk opens quoted parts derived⟩
    rw [Entry.shift, Span.shift_mk, same, Nat.add_right_comm start bytes]

/-- Members are the same where their text begins a number of bytes earlier. -/
theorem Members.earlier : ∀ {here : Nat} (start : Nat) {text : List Char}
    {entries : List (Entry Node)}, Members unit? here text entries → here = start + bytes →
      ∃ others, entries = Node.shiftEntries bytes others ∧ Members unit? start text others
  -- A member that follows starts behind a text that is as long as it was.
  | _, start, _, _, .last member, same => by
    obtain ⟨other, rfl, derived⟩ := member.earlier start same
    exact ⟨[other], rfl, .last derived⟩
  | _, start, _, _, @Members.more _ _ text _ _ _ member rest, same => by
    obtain ⟨other, rfl, derived⟩ := member.earlier start same
    obtain ⟨others, rfl, more⟩ := rest.earlier (start + byteLength text + 1) (by omega)
    exact ⟨other :: others, rfl, .more derived more⟩

end

/-! ### Documents of one node -/

/-- A value alone makes a document. -/
theorem Value.document {text : List Char} {node : Node} (value : Value unit? 0 text node) :
    Document unit? text node := by
  obtain ⟨first, rest, spelled, begins⟩ := value.first
  -- No value begins with a byte order mark.
  have unmarked : text.head? ≠ some '\uFEFF' := by
    rw [spelled, List.head?_cons, ne_eq, Option.some.injEq]
    exact begins.ne (by decide)
  have element : Element unit? 0 ([] ++ (text ++ [])) node := .mk .nil value .nil
  rw [List.append_nil, List.nil_append] at element
  exact .plain unmarked element

end Grammar

namespace JsonText

open Grammar

/-- A node that is written in a text is read again from what it spans. -/
theorem read_cut {text : String} {node : Node}
    (has : HasNode (readNatural? 16) 0 text.toList node) (distinct : node.Distinct)
    (fits : node.toJson.depth ≤ maxDepth) :
    ∃ alone, read (node.span.cut text).toList = .ok alone ∧
      node = alone.shift node.span.start := by
  obtain ⟨front, word, back, whole, value⟩ := has
  rw [Nat.zero_add] at value
  -- The derivation of the node is moved to the beginning of the text that is cut out.
  obtain ⟨alone, same, derived⟩ := value.earlier 0 (Nat.zero_add _).symm
  rw [value.span_eq, Span.cut_part whole, String.toList_ofList]
  subst same
  -- The node repeats no key and is not too deep wherever it stands.
  have shape := Node.distinct_of_shift distinct
  rw [Node.toJson_shift] at fits
  exact ⟨alone, read_iff.mpr ⟨derived.document, shape, fits⟩, rfl⟩

/-- A key that is written in a text is read from what it spans as a string. -/
theorem read_key_cut {text : String} {entry : Entry Node}
    (has : HasPart (IsKey (readNatural? 16) entry) 0 text.toList) :
    read (entry.keySpan.cut text).toList =
      .ok (.scalar (.string entry.key) ⟨0, entry.keySpan.stop - entry.keySpan.start⟩) := by
  obtain ⟨front, word, back, whole, quoted, span⟩ := has
  rw [Nat.zero_add] at span
  -- A key is quoted like a string, so its text alone derives one.
  have value : Value (readNatural? 16) 0 word
      (.scalar (.string entry.key) ⟨0, 0 + byteLength word⟩) := .leaf (.string quoted)
  rw [span, Span.cut_part whole, String.toList_ofList, Nat.add_sub_cancel_left]
  rw [Nat.zero_add] at value
  exact read_iff.mpr ⟨value.document, .scalar, Nat.zero_le _⟩

end JsonText

/-- Every node of JSON text is read again, but for where it stands, from the bytes that it spans
alone, and every key is read from its own bytes as a string. -/
theorem json_spans_cut_out_nodes {text : String} {root : Node}
    (read : readDocument .json text = .ok root) :
    ∀ place ∈ root.descendants,
      (∃ alone, readDocument .json (place.2.span.cut text) = .ok alone ∧
        place.2 = alone.shift place.2.span.start) ∧
      ∀ entry ∈ place.2.entries, readDocument .json (entry.keySpan.cut text) =
        .ok (.scalar (.string entry.key) ⟨0, entry.keySpan.stop - entry.keySpan.start⟩) := by
  intro place member
  -- Every node of the tree was derived from a part of the text.
  obtain ⟨distinct, fits, has⟩ := JsonText.throughout_read read place member
  refine ⟨JsonText.read_cut has distinct fits, ?_⟩
  intro entry inside
  exact JsonText.read_key_cut (has.key entry inside)

/-- The number at the end of an object is read from its digits, and the key from its quotes. -/
theorem last_number_is_cut_out :
    ∃ root, readDocument .json "[1, \x7b\"é\": -20\x7d]" = .ok root ∧
      (∃ alone, readDocument .json "-20" = .ok alone ∧
        root.find? ["1", "é"] = some (alone.shift 11)) ∧
      readDocument .json "\"é\"" = .ok (.scalar (.string "é") ⟨0, 4⟩) := by
  -- The tree is written down and read by evaluation. The number and its object are among its nodes.
  let number : Node := .scalar (.number (.int (-20))) ⟨11, 14⟩
  let object : Node := .mapping [⟨"é", ⟨5, 9⟩, number⟩] ⟨4, 15⟩
  let root : Node := .sequence [.scalar (.number (.int 1)) ⟨1, 2⟩, object] ⟨0, 16⟩
  have read : readDocument .json "[1, \x7b\"é\": -20\x7d]" = .ok root := rfl
  have cuts := json_spans_cut_out_nodes read
  have inner : root.find? ["1", "é"] = some number := rfl
  have outer : root.find? ["1"] = some object := rfl
  obtain ⟨alone, answered, same⟩ := (cuts _ (Node.mem_descendants_of_find? inner)).1
  have key := (cuts _ (Node.mem_descendants_of_find? outer)).2 _ List.mem_cons_self
  exact ⟨root, read, ⟨alone, answered, inner.trans (congrArg some same)⟩, key⟩

end SpecTrace
