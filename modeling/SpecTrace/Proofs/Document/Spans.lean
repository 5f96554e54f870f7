import SpecTrace.Document.Node
import SpecTrace.Proofs.Document.Addressing
import SpecTrace.Proofs.Text.Boundaries

/-! Where the parts of a tree stand in a text: trees behind a number of further bytes, what it means
that spans fit in a text and that they are nested, and spans one behind the other. -/

namespace SpecTrace

/-! ### Further bytes -/

/-- The span behind a number of further bytes. -/
def Span.shift (bytes : Nat) (span : Span) : Span :=
  ⟨span.start + bytes, span.stop + bytes⟩

namespace Node

mutual

/-- The tree with every node and every key behind a number of further bytes. -/
def shift (bytes : Nat) : Node → Node
  | .scalar value span => .scalar value (span.shift bytes)
  | .sequence items span => .sequence (shiftItems bytes items) (span.shift bytes)
  | .mapping entries span => .mapping (shiftEntries bytes entries) (span.shift bytes)

/-- The items behind a number of further bytes. -/
def shiftItems (bytes : Nat) : List Node → List Node
  | [] => []
  | item :: rest => item.shift bytes :: shiftItems bytes rest

/-- The entries behind a number of further bytes. -/
def shiftEntries (bytes : Nat) : List (Entry Node) → List (Entry Node)
  | [] => []
  | ⟨key, keySpan, value⟩ :: rest =>
    ⟨key, keySpan.shift bytes, value.shift bytes⟩ :: shiftEntries bytes rest

end

end Node

/-! ### Pieces -/

namespace Node

/-- The entries of a mapping; other nodes have none. -/
def entries : Node → List (Entry Node)
  | .mapping entries _ => entries
  | _ => []

end Node

/-- A piece of a collection: a key, of which only the place matters, or a child. -/
inductive Piece where
  | key (span : Span)
  | child (node : Node)

/-- Where the piece was written. -/
def Piece.span : Piece → Span
  | .key span => span
  | .child node => node.span

/-- The pieces of an entry: its key, and behind it the value. -/
def Entry.pieces (entry : Entry Node) : List Piece :=
  [.key entry.keySpan, .child entry.value]

namespace Node

/-- The pieces of a node, in document order. -/
def pieces : Node → List Piece
  | .scalar _ _ => []
  | .sequence items _ => items.map .child
  | .mapping entries _ => entries.flatMap Entry.pieces

/-- Every child is a piece. -/
theorem child_mem_pieces {node : Node} {child : String × Node} (known : child ∈ node.children) :
    .child child.2 ∈ node.pieces := by
  -- The pieces of a mapping are the key and the value of every entry, in turn.
  cases node with
  | scalar value span => cases known
  | sequence items span => exact List.mem_map_of_mem (mem_indexed known)
  | mapping entries span =>
    obtain ⟨entry, inside, rfl⟩ := List.mem_map.mp known
    exact List.mem_flatMap.mpr ⟨entry, inside, List.mem_cons_of_mem _ List.mem_cons_self⟩

/-- The key of every entry is a piece. -/
theorem key_mem_pieces {node : Node} {entry : Entry Node} (inside : entry ∈ node.entries) :
    .key entry.keySpan ∈ node.pieces := by
  cases node with
  | scalar value span => cases inside
  | sequence items span => cases inside
  | mapping entries span => exact List.mem_flatMap.mpr ⟨entry, inside, List.mem_cons_self⟩

/-- The pieces of a node lie within it, one behind the other: a key ends before its value starts,
and an entry or an item ends before the next one starts. -/
structure Nested (node : Node) : Prop where
  within : ∀ piece ∈ node.pieces, node.span.start ≤ piece.span.start ∧
    piece.span.stop ≤ node.span.stop
  ordered : node.pieces.Pairwise fun earlier later => earlier.span.stop ≤ later.span.start

end Node

/-! ### Spans in a text -/

/-- A span in a text: both ends are boundaries, in their order and not behind the end of the
text. -/
structure Span.FitsIn (text : String) (span : Span) : Prop where
  ordered : span.start ≤ span.stop
  inside : span.stop ≤ text.utf8ByteSize
  start : IsBoundary text span.start
  stop : IsBoundary text span.stop

/-- Between two boundaries of a text there is a span. -/
theorem Span.fitsIn {text : String} {start stop : Nat} (ordered : start ≤ stop)
    (begins : IsBoundary text start) (ends : IsBoundary text stop) :
    (⟨start, stop⟩ : Span).FitsIn text :=
  ⟨ordered, ends.le, begins, ends⟩

/-- A part of a text lies between two boundaries. -/
theorem Span.fitsIn_part {text : String} {front word back : List Char}
    (whole : text.toList = front ++ (word ++ back)) :
    (⟨byteLength front, byteLength front + byteLength word⟩ : Span).FitsIn text := by
  refine fitsIn (Nat.le_add_right _ _) (isBoundary_iff.mpr ⟨front, _, whole, rfl⟩) ?_
  refine isBoundary_iff.mpr ⟨front ++ word, back, ?_, (byteLength_append _ _).symm⟩
  rw [whole, List.append_assoc]

/-- A node whose span and whose keys lie in a text. -/
structure Node.FitsIn (text : String) (node : Node) : Prop where
  here : node.span.FitsIn text
  keys : ∀ entry ∈ node.entries, entry.keySpan.FitsIn text

/-! ### Rows of pieces -/

/-- Pieces one behind the other between two offsets. -/
inductive Row : Nat → List Piece → Nat → Prop
  | nil {start stop : Nat} (le : start ≤ stop) : Row start [] stop
  | cons {start stop : Nat} {piece : Piece} {rest : List Piece} (behind : start ≤ piece.span.start)
    (ordered : piece.span.start ≤ piece.span.stop) (more : Row piece.span.stop rest stop) :
    Row start (piece :: rest) stop

namespace Row

variable {start middle stop : Nat} {piece : Piece} {pieces front back : List Piece}

/-- A row ends no earlier than it starts. -/
theorem le (row : Row start pieces stop) : start ≤ stop := by
  induction row with
  | nil le => exact le
  | cons behind ordered more ih => omega

/-- A row is also one between offsets that are farther apart. -/
theorem widen {before after : Nat} (row : Row start pieces stop) (first : before ≤ start)
    (last : stop ≤ after) : Row before pieces after := by
  -- Only the first piece and the end of the row see the wider offsets.
  induction row generalizing before with
  | nil le => exact .nil (by omega)
  | cons behind ordered more ih => exact .cons (by omega) ordered (ih (Nat.le_refl _) last)

/-- Rows behind one another make one row. -/
theorem append (first : Row start front middle) (second : Row middle back stop) :
    Row start (front ++ back) stop := by
  -- The first row is taken off piece by piece; where it ends, the second one may begin later.
  induction first with
  | nil le => exact second.widen le (Nat.le_refl _)
  | cons behind ordered more ih => exact .cons behind ordered (ih second)

/-- A single piece between two offsets. -/
theorem single (behind : start ≤ piece.span.start) (ordered : piece.span.start ≤ piece.span.stop)
    (before : piece.span.stop ≤ stop) : Row start [piece] stop :=
  .cons behind ordered (.nil before)

/-- Every piece of a row lies between its ends. -/
theorem within (row : Row start pieces stop) :
    ∀ piece ∈ pieces, start ≤ piece.span.start ∧ piece.span.stop ≤ stop := by
  induction row with
  | nil le => simp
  | cons behind ordered more ih =>
    refine List.forall_mem_cons.mpr ⟨⟨behind, more.le⟩, ?_⟩
    -- A later piece starts behind the first one, and so behind the start of the row.
    intro later member
    have inside := ih later member
    omega

/-- Every piece of a row ends before the later ones start. -/
theorem pairwise (row : Row start pieces stop) :
    pieces.Pairwise fun earlier later => earlier.span.stop ≤ later.span.start := by
  induction row with
  | nil le => exact .nil
  | cons behind ordered more ih =>
    -- All later pieces lie in the row that begins where the first piece stops.
    exact .cons (fun later member => (more.within later member).1) ih

/-- A node whose pieces make a row within it is nested. -/
theorem nested {node : Node} (row : Row node.span.start node.pieces node.span.stop) :
    node.Nested :=
  ⟨row.within, row.pairwise⟩

end Row

/-! ### All nodes of a tree -/

namespace Node

/-- A property of all nodes of a tree. -/
def Throughout (P : Node → Prop) (node : Node) : Prop :=
  ∀ place ∈ node.descendants, P place.2

/-- A property holds throughout a tree if it holds of the node and throughout its children. -/
theorem throughout_of_children {P : Node → Prop} {node : Node} (holds : P node)
    (below : ∀ child ∈ node.children, child.2.Throughout P) : node.Throughout P := by
  unfold Throughout
  rw [descendants_eq, List.forall_mem_cons]
  refine ⟨holds, ?_⟩
  intro place member
  -- What stands below the node stands in one of its children.
  obtain ⟨child, known, inside⟩ := List.mem_flatMap.mp member
  obtain ⟨deeper, listed, rfl⟩ := List.mem_map.mp inside
  exact below child known deeper listed

/-- A property that nodes pass on to their children holds throughout a tree. -/
theorem throughout_of_passed {P : Node → Prop} {node : Node} (holds : P node)
    (passed : ∀ node, P node → ∀ child ∈ node.children, P child.2) : node.Throughout P := by
  -- By induction on the tree, as the property goes from a node to its children.
  induction node using children_induction with
  | step node ih =>
    apply throughout_of_children holds
    intro child known
    exact ih child known (passed node holds child known)

/-- What holds throughout a tree holds of its root. -/
theorem Throughout.here {P : Node → Prop} {node : Node} (holds : node.Throughout P) : P node :=
  holds ([], node) node.self_mem_descendants

end Node

/-! ### Pieces in good order -/

/-- A key lies in a text, or a child with all that is below it. -/
def Piece.FitsIn (text : String) : Piece → Prop
  | .key span => span.FitsIn text
  | .child node => node.Throughout (Node.FitsIn text)

/-- All nodes of a child are nested. -/
def Piece.Nested : Piece → Prop
  | .key _ => True
  | .child node => node.Throughout Node.Nested

/-- A piece that lies in a text has its span there. -/
theorem Piece.FitsIn.span {text : String} {piece : Piece} (fits : piece.FitsIn text) :
    piece.span.FitsIn text := by
  cases piece with
  | key span => exact fits
  | child node => exact fits.here.here

/-- A node whose pieces lie in a text lies there with all that is below it. -/
theorem Node.throughout_fitsIn {text : String} {node : Node} (here : node.span.FitsIn text)
    (pieces : ∀ piece ∈ node.pieces, piece.FitsIn text) :
    node.Throughout (Node.FitsIn text) := by
  apply throughout_of_children
  · exact ⟨here, fun entry inside => pieces _ (key_mem_pieces inside)⟩
  · intro child known
    exact pieces _ (child_mem_pieces known)

/-- Pieces in a row, in which all nodes are nested. -/
structure Tidy (start : Nat) (pieces : List Piece) (stop : Nat) : Prop where
  row : Row start pieces stop
  nested : ∀ piece ∈ pieces, piece.Nested

namespace Tidy

variable {start middle stop : Nat} {front back pieces : List Piece}

/-- Tidy pieces behind one another are tidy together. -/
theorem append (first : Tidy start front middle) (second : Tidy middle back stop) :
    Tidy start (front ++ back) stop :=
  ⟨first.row.append second.row, List.forall_mem_append.mpr ⟨first.nested, second.nested⟩⟩

/-- Pieces stay tidy between offsets that are farther apart. -/
theorem widen {before after : Nat} (tidy : Tidy start pieces stop) (first : before ≤ start)
    (last : stop ≤ after) : Tidy before pieces after :=
  ⟨tidy.row.widen first last, tidy.nested⟩

/-- A node with tidy pieces is nested with all that is below it. -/
theorem throughout {node : Node} (tidy : Tidy node.span.start node.pieces node.span.stop) :
    node.Throughout Node.Nested := by
  apply Node.throughout_of_children
  · exact tidy.row.nested
  · intro child known
    exact tidy.nested _ (Node.child_mem_pieces known)

end Tidy

end SpecTrace
