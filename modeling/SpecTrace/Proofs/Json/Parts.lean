import SpecTrace.Proofs.Document.Spans
import SpecTrace.Proofs.Json.Escapes

/-! The parts of JSON text that the nodes and the keys of its tree are derived from, and how their
spans stand to one another. -/

namespace SpecTrace

/-- A node is no deeper than what it is in. -/
theorem Node.depth_child_le {node : Node} {room : Nat} (fits : node.toJson.depth ≤ room) :
    ∀ child ∈ node.children, child.2.toJson.depth ≤ room := by
  intro child known
  -- A child even fits into one level less than there is room for.
  have more := Nat.le_succ_of_le fits
  cases node with
  | scalar value span => cases known
  | sequence items span => exact depth_sequence_le.mp more _ (mem_indexed known)
  | mapping entries span =>
    obtain ⟨entry, inside, rfl⟩ := List.mem_map.mp known
    exact depth_mapping_le.mp more entry inside

namespace Grammar

variable {unit? : List Char → Option Nat} {start : Nat} {text : List Char} {node : Node}

/-! ### Parts of a text -/

/-- A part of a text that begins at an offset is derived, at the offset that the part itself
begins at. -/
def HasPart (derived : Nat → List Char → Prop) (start : Nat) (text : List Char) : Prop :=
  ∃ front word back, text = front ++ (word ++ back) ∧ derived (start + byteLength front) word

section

variable {derived : Nat → List Char → Prop}

/-- A part of a part is a part. -/
theorem HasPart.within {front inner back : List Char}
    (part : HasPart derived (start + byteLength front) inner) :
    HasPart derived start (front ++ (inner ++ back)) := by
  -- What stands around the inner part is added to what stands around the part of it.
  obtain ⟨before, word, behind, rfl, derives⟩ := part
  -- The offsets add up along what stands in front of both.
  rw [Nat.add_assoc, ← byteLength_append] at derives
  refine ⟨front ++ before, word, behind ++ back, ?_, derives⟩
  simp only [List.append_assoc]

/-- A part of a beginning is a part. -/
theorem HasPart.left {inner : List Char} (part : HasPart derived start inner) (back : List Char) :
    HasPart derived start (inner ++ back) := by
  have whole : HasPart derived start ([] ++ (inner ++ back)) := HasPart.within part
  exact whole

end

/-! ### Children and keys -/

variable (unit?) in
/-- The key of an entry is written in quotes at an offset. -/
def IsKey (entry : Entry Node) (start : Nat) (text : List Char) : Prop :=
  Quoted unit? text entry.key ∧ entry.keySpan = ⟨start, start + byteLength text⟩

variable (unit?) in
/-- A node is written in a part of a text. -/
def HasNode (start : Nat) (text : List Char) (node : Node) : Prop :=
  HasPart (fun place word => Value unit? place word node) start text

variable (unit?) in
/-- The key and the value of an entry are written in parts of a text. -/
def HasEntry (start : Nat) (text : List Char) (entry : Entry Node) : Prop :=
  HasPart (IsKey unit? entry) start text ∧ HasNode unit? start text entry.value

/-- An element has its value in it. -/
theorem Element.hasNode (element : Element unit? start text node) :
    HasNode unit? start text node := by
  cases element with
  | mk opens value closes => exact ⟨_, _, _, rfl, value⟩

/-- What stands behind a comma is a part of the whole. -/
theorem HasPart.behind_comma {derived : Nat → List Char → Prop} {front rest : List Char}
    (part : HasPart derived (start + byteLength front + 1) rest) :
    HasPart derived start (front ++ ',' :: rest) := by
  -- The comma is counted to what stands in front.
  have spelled : front ++ ',' :: rest = (front ++ [',']) ++ (rest ++ []) := by simp
  have comma : byteLength [','] = 1 := rfl
  rw [spelled]
  refine HasPart.within ?_
  rw [byteLength_append, comma, ← Nat.add_assoc]
  exact part

/-- The items of an array are written in it. -/
theorem Elements.hasNode {items : List Node} (elements : Elements unit? start text items) :
    ∀ item ∈ items, HasNode unit? start text item := by
  -- Item by item: the first is in what stands before the comma, the others behind it.
  induction items generalizing start text with
  | nil => cases elements
  | cons node nodes behind =>
    cases elements with
    | last item => exact List.forall_mem_singleton.mpr item.hasNode
    | more item others =>
      refine List.forall_mem_cons.mpr ⟨item.hasNode.left _, ?_⟩
      intro other member
      exact (behind others other member).behind_comma

/-- A member has its key in front and its value behind it. -/
theorem Member.hasEntry {entry : Entry Node} (member : Member unit? start text entry) :
    HasEntry unit? start text entry := by
  cases member with
  | @mk _ before name between text _ _ opens quoted parts value =>
    refine ⟨⟨before, name, _, rfl, quoted, rfl⟩, ?_⟩
    -- The value stands behind the colon.
    have spelled : before ++ (name ++ (between ++ ':' :: text)) =
        (before ++ (name ++ between) ++ [':']) ++ (text ++ []) := by simp
    have colon : byteLength [':'] = 1 := rfl
    rw [spelled]
    refine HasPart.within ?_
    rw [byteLength_append _ [':'], colon, ← Nat.add_assoc]
    exact value.hasNode

/-- The members of an object are written in it. -/
theorem Members.hasEntry {entries : List (Entry Node)}
    (members : Members unit? start text entries) :
    ∀ entry ∈ entries, HasEntry unit? start text entry := by
  -- Member by member, as for items.
  induction entries generalizing start text with
  | nil => cases members
  | cons first rest behind =>
    cases members with
    | last member => exact List.forall_mem_singleton.mpr member.hasEntry
    | more member others =>
      refine List.forall_mem_cons.mpr
        ⟨⟨member.hasEntry.1.left _, member.hasEntry.2.left _⟩, ?_⟩
      intro other inside
      have entry := behind others other inside
      exact ⟨entry.1.behind_comma, entry.2.behind_comma⟩

/-- What is written between brackets or braces is a part of the collection. -/
theorem HasPart.inside {derived : Nat → List Char → Prop} {opening closing : Char}
    {inner : List Char} (one : opening.utf8Size = 1) (part : HasPart derived (start + 1) inner) :
    HasPart derived start (opening :: (inner ++ [closing])) := by
  -- The opening is one byte long, so the part starts one byte behind it.
  have behind : start + byteLength [opening] = start + 1 := by
    rw [byteLength_cons, byteLength_nil, one]
  have whole : HasPart derived start ([opening] ++ (inner ++ [closing])) := by
    apply HasPart.within
    rw [behind]
    exact part
  exact whole

/-- The children of a value are written in it. -/
theorem Value.child (value : Value unit? start text node) :
    ∀ child ∈ node.children, HasNode unit? start text child.2 := by
  -- Only arrays and objects have children, and their text stands behind one bracket or brace.
  intro child known
  cases value with
  | leaf | emptyArray | emptyObject => cases known
  | array inside => exact (inside.hasNode _ (Node.mem_indexed known)).inside rfl
  | object inside =>
    obtain ⟨entry, member, rfl⟩ := List.mem_map.mp known
    exact (inside.hasEntry entry member).2.inside rfl

/-- The keys of a value are written in it. -/
theorem Value.key (value : Value unit? start text node) :
    ∀ entry ∈ node.entries, HasPart (IsKey unit? entry) start text := by
  intro entry member
  cases value with
  | leaf | emptyArray | array | emptyObject => cases member
  | object inside => exact (inside.hasEntry entry member).1.inside rfl

/-- A node that is written in a text has its children written there. -/
theorem HasNode.child (has : HasNode unit? start text node) :
    ∀ child ∈ node.children, HasNode unit? start text child.2 := by
  obtain ⟨front, word, back, rfl, value⟩ := has
  intro child known
  exact HasPart.within (value.child child known)

/-- A node that is written in a text has its keys written there. -/
theorem HasNode.key (has : HasNode unit? start text node) :
    ∀ entry ∈ node.entries, HasPart (IsKey unit? entry) start text := by
  obtain ⟨front, word, back, rfl, value⟩ := has
  intro entry inside
  exact HasPart.within (value.key entry inside)

/-- The value of a document is written in it. -/
theorem Document.hasNode (document : Document unit? text node) : HasNode unit? 0 text node := by
  cases document with
  | plain unmarked value => exact value.hasNode
  | marked value =>
    -- The byte order mark stands in front of the element.
    rename_i rest
    have spelled : '\uFEFF' :: rest = ['\uFEFF'] ++ (rest ++ []) := by simp
    rw [spelled]
    exact HasPart.within value.hasNode

/-! ### Spans -/

/-- A value spans its text. -/
theorem Value.span_eq (value : Value unit? start text node) :
    node.span = ⟨start, start + byteLength text⟩ := by
  cases value <;> rfl

/-- An element spans its text but for white space. -/
theorem Element.row (element : Element unit? start text node) :
    Row start [.child node] (start + byteLength text) := by
  cases element with
  | mk opens value closes =>
    have span := value.span_eq
    refine .single ?_ ?_ ?_ <;>
      simp only [Piece.span, span, byteLength_append] <;> omega

/-- What stands in a row behind a comma follows what stands in a row in front of it. -/
theorem row_behind_comma {front rest : List Char} {first others : List Piece}
    (row : Row start first (start + byteLength front))
    (behind : Row (start + byteLength front + 1) others
      (start + byteLength front + 1 + byteLength rest)) :
    Row start (first ++ others) (start + byteLength (front ++ ',' :: rest)) := by
  -- The comma leaves a gap of one byte, which a row may have.
  have all := row.append (behind.widen (Nat.le_add_right _ 1) (Nat.le_refl _))
  have comma : Char.utf8Size ',' = 1 := rfl
  rw [byteLength_append, byteLength_cons]
  exact all.widen (Nat.le_refl _) (by omega)

/-- The items of an array stand one behind the other. -/
theorem Elements.row {items : List Node} (elements : Elements unit? start text items) :
    Row start (items.map .child) (start + byteLength text) := by
  -- By induction on the items: the first one stands alone or in front of a comma and the others.
  induction items generalizing start text with
  | nil => cases elements
  | cons node nodes row =>
    cases elements with
    | last item => exact item.row
    | more item others => exact row_behind_comma item.row (row others)

/-- The key of a member ends before its value starts. -/
theorem Member.row {entry : Entry Node} (member : Member unit? start text entry) :
    Row start entry.pieces (start + byteLength text) := by
  cases member with
  | @mk _ before name between text key node opens quoted parts value =>
    have colon : Char.utf8Size ':' = 1 := rfl
    -- The key stands between the white space in front and the colon.
    have name : Row start
        [.key ⟨start + byteLength before, start + byteLength before + byteLength name⟩]
        (start + byteLength (before ++ (name ++ between)) + 1) := by
      refine .single ?_ ?_ ?_ <;> simp only [Piece.span, byteLength_append] <;> omega
    have both := name.append value.row
    refine both.widen (Nat.le_refl _) ?_
    simp only [byteLength_append, byteLength_cons, colon]
    omega

/-- The members of an object stand one behind the other. -/
theorem Members.row {entries : List (Entry Node)}
    (members : Members unit? start text entries) :
    Row start (entries.flatMap Entry.pieces) (start + byteLength text) := by
  -- By induction on the members: the first one stands alone or in front of a comma and the others.
  induction entries generalizing start text with
  | nil => cases members
  | cons first rest row =>
    cases members with
    | last member => exact member.row
    | more member others => exact row_behind_comma member.row (row others)

/-- What stands in a row between brackets or braces stands in a row within the collection. -/
theorem row_inside {opening closing : Char} {inner : List Char} {pieces : List Piece}
    (one : opening.utf8Size = 1) (row : Row (start + 1) pieces (start + 1 + byteLength inner)) :
    Row start pieces (start + byteLength (opening :: (inner ++ [closing]))) := by
  refine row.widen (Nat.le_add_right _ 1) ?_
  rw [byteLength_cons, byteLength_append, one]
  omega

/-- The keys and the children of a value are nested in it. -/
theorem Value.nested (value : Value unit? start text node) : node.Nested := by
  apply Row.nested
  cases value with
  | leaf | emptyArray | emptyObject => exact .nil (Nat.le_add_right _ _)
  | array inside => exact row_inside rfl inside.row
  | object inside => exact row_inside rfl inside.row

/-- What spans its part of a text fits in the text. -/
theorem HasPart.fitsIn {derived : Nat → List Char → Prop} {whole : String} {span : Span}
    (part : HasPart derived 0 whole.toList)
    (spans : ∀ {start word}, derived start word → span = ⟨start, start + byteLength word⟩) :
    span.FitsIn whole := by
  -- A part of the whole text starts and ends at its boundaries.
  obtain ⟨front, word, back, spelled, derives⟩ := part
  rw [spans derives, Nat.zero_add]
  exact Span.fitsIn_part spelled

/-- A node that is written in a text fits in it, with its keys. -/
theorem HasNode.fitsIn {whole : String} (has : HasNode unit? 0 whole.toList node) :
    node.FitsIn whole := by
  refine ⟨HasPart.fitsIn has Value.span_eq, ?_⟩
  intro entry inside
  exact (has.key entry inside).fitsIn And.right

end Grammar

namespace JsonText

open Grammar

/-- Nodes that are read repeat no key, are not too deep and are written in the text, with all that
is below them. -/
theorem throughout_read {text : List Char} {root : Node} (answered : read text = .ok root) :
    root.Throughout fun node => node.Distinct ∧ node.toJson.depth ≤ maxDepth ∧
      HasNode (readNatural? 16) 0 text node := by
  obtain ⟨document, distinct, fits⟩ := read_iff.mp answered
  -- The three hold at the root, and each goes from a node to its children.
  refine Node.throughout_of_passed ⟨distinct, fits, document.hasNode⟩ ?_
  rintro node ⟨distinct, fits, has⟩ child known
  exact ⟨distinct.child known, Node.depth_child_le fits child known, has.child child known⟩

end JsonText

end SpecTrace
