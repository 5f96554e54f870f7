import SpecTrace.Proofs.Document.Spans
import SpecTrace.Proofs.Respelling.Documents
import SpecTrace.Proofs.Respelling.Json

/-! A byte order mark in front of a document moves its offsets, and its first line as well. -/

namespace SpecTrace

/-! ### Moved readings -/

/-- The reading of a text behind a number of further bytes: the tree or the error is moved. -/
def shiftReading (bytes : Nat) : Reading Node → Reading Node
  | .ok root => .ok (root.shift bytes)
  | .error e => .error { e with offset := e.offset + bytes }

namespace Respelling

variable {way : Respelling} {bytes : Nat}

/-- What is left is the same, behind a number of further bytes. -/
structure Moves (way : Respelling) (bytes : Nat) : Prop where
  exactly : way.verbatim
  further : byteLength way.respelt = byteLength way.text + bytes

namespace Moves

/-- Spans that are alike are moved. -/
theorem span_eq (moves : way.Moves bytes) {span other : Span} (same : way.SameSpan span other) :
    other = span.shift bytes := by
  have starts := same.start.shifts moves.exactly
  have stops := same.stop moves.exactly
  have further := moves.further
  -- As many bytes are left behind either end, so either is moved by what the texts differ in.
  unfold Shifts at starts stops
  cases span
  cases other
  simp only [Span.shift, Span.mk.injEq]
  dsimp only at starts stops
  omega

mutual

/-- Nodes that are the same are moved. -/
theorem node_eq (moves : way.Moves bytes) {node other : Node} :
    way.Same node other → other = node.shift bytes
  | .scalar spans _ => by rw [Node.shift, moves.span_eq spans]
  | .sequence spans inside => by rw [Node.shift, moves.span_eq spans, moves.items_eq inside]
  | .mapping spans inside => by rw [Node.shift, moves.span_eq spans, moves.entries_eq inside]

/-- Items that are the same are moved. -/
theorem items_eq (moves : way.Moves bytes) {items others : List Node} :
    way.SameItems items others → others = Node.shiftItems bytes items
  | .nil => rfl
  | .cons first more => by rw [Node.shiftItems, moves.node_eq first, moves.items_eq more]

/-- Entries that are the same are moved. -/
theorem entries_eq (moves : way.Moves bytes) {entries others : List (Entry Node)} :
    way.SameEntries entries others → others = Node.shiftEntries bytes entries
  | .nil => rfl
  | .cons keys first more => by
    rw [Node.shiftEntries, moves.span_eq keys, moves.node_eq first, moves.entries_eq more]

end

/-- Readings that agree are moved. -/
theorem reading_eq (moves : way.Moves bytes) {reading other : Reading Node}
    (agree : way.Agree way.Same reading other) : other = shiftReading bytes reading := by
  -- Both readings answer, or both find a fault.
  cases agree with
  | ok same => rw [shiftReading, moves.node_eq same]
  | error same =>
    rename_i e f
    -- An error is moved like the end of a span.
    obtain ⟨fault, shifts⟩ := same moves.exactly
    have further := moves.further
    unfold Shifts at shifts
    cases e
    cases f
    simp only [shiftReading, Except.error.injEq, SyntaxError.mk.injEq]
    exact ⟨by dsimp only at shifts; omega, fault⟩

end Moves

end Respelling

/-! ### Marked documents -/

namespace Cursor

/-- Layout without a line break leads to the right. -/
theorem column_le_skipLayout {c : Cursor} (line : c.skipLayout.2 = false) :
    c.column ≤ c.skipLayout.1.column := by
  have passed : c.Passes _ c.skipLayout.1 := c.passes_take (layoutLength false c.rest)
  -- Without a break, every byte is one column further.
  have inside : ∀ ch ∈ c.rest.take (layoutLength false c.rest), isBreak ch = false := by
    simpa [skipLayout] using line
  rw [passed.column inside]
  exact Nat.le_add_right _ _

end Cursor

/-- The text behind a byte order mark. -/
def withMark (text : String) : String :=
  String.ofList ('\uFEFF' :: text.toList)

/-- The content of the text begins on its first line, with a collection in block style. -/
def beginsCollection (text : List Char) : Bool :=
  let (content, crossed) := (Cursor.start text).skipLayout
  match Yaml.readProperties false 3 .none content with
  | .ok (p, c) => !(crossed || p.crossed) && Yaml.opensCollection text.length c
  | .error _ => false

/-- The first line of the text is read by its columns: it begins with a directive, a document marker
or a collection in block style. -/
def firstLineColumns (text : List Char) : Bool :=
  (Cursor.start text).peek = some '%' || (Cursor.start text).startsWithMarker openingMarker ||
    (Cursor.start text).startsWithMarker closingMarker || beginsCollection text

/-- A text, and the text behind a byte order mark. -/
def Respelling.marked (text : List Char) : Respelling :=
  ⟨text, '\uFEFF' :: text, True, .inl trivial⟩

namespace Respelling

variable {text : List Char}

/-- Behind the mark the margin is left. -/
theorem zero_lt_mark (text : List Char) :
    0 < (Cursor.start ('\uFEFF' :: text)).skipByteOrderMark.column :=
  show 0 < 0 + '\uFEFF'.utf8Size by decide

/-- The mark moves what is left by three bytes. -/
theorem marked_moves (text : List Char) : (marked text).Moves 3 :=
  ⟨trivial, Nat.add_comm 3 _⟩

/-- Behind the mark the text is read from the right of the margin. -/
theorem marked_alike (unmarked : text.head? ≠ some '\uFEFF') :
    (marked text).Alike False text.length (Cursor.start text).skipByteOrderMark
      (Cursor.start ('\uFEFF' :: text)).skipByteOrderMark := by
  -- The text itself has no mark to skip, and starts at the margin.
  have stays : (Cursor.start text).skipByteOrderMark = Cursor.start text := if_neg unmarked
  rw [stays]
  exact ⟨.refl text, fun _ => rfl, ⟨Nat.le_refl _, Nat.le_succ _⟩, Cursor.standsIn_start _,
    (Cursor.standsIn_start _).pass (.next rfl), .inr ⟨not_false, zero_lt_mark text, fun _ => rfl⟩⟩

end Respelling

namespace Yaml

open Respelling

variable {text : List Char}

/-- A text whose first line is read without its columns is read alike behind the mark. -/
theorem read_marked_agree (unmarked : text.head? ≠ some '\uFEFF')
    (free : firstLineColumns text = false) :
    (marked text).Agree (marked text).Same (read text) (read ('\uFEFF' :: text)) := by
  simp only [firstLineColumns, Bool.or_eq_false_iff, decide_eq_false_iff_not] at free
  obtain ⟨⟨⟨directive, opening⟩, closing⟩, content⟩ := free
  -- Neither a directive nor a marker begins the text, so the column does not matter to them.
  have plain : (marked text).Unmarked := ⟨directive, opening, closing⟩
  have alike := marked_alike unmarked
  have behind := alike.skipDirectives (.inr plain) (Nat.lt_succ_self _)
    (Nat.lt_succ_of_lt (Nat.lt_succ_self _))
  have stays : (Cursor.start text).skipByteOrderMark = Cursor.start text := if_neg unmarked
  show (marked text).Agree _ (read (marked text).text) (read (marked text).respelt)
  rw [read_eq, read_eq]
  refine readFrom_agree behind ?_
  cases crossed : (Cursor.start text).skipByteOrderMark.skipLayout.2 with
  | true =>
    -- Behind a line break both sides stand at the same column.
    exact .inl (.inr rfl)
  | false =>
    obtain ⟨line, begun⟩ := alike.skipLayout
    -- The content follows on the first line, right of the margin behind the mark.
    have right := Cursor.column_le_skipLayout (line.trans crossed)
    have stop := mt (begun.atDirective_iff (.inr plain)).mpr fun there =>
      Nat.not_le.mpr (zero_lt_mark text) (there.1 ▸ right)
    have here : (Cursor.start text).skipByteOrderMark.skipDirectives (text.length + 1) =
        (Cursor.start text).skipByteOrderMark.skipLayout.1 := if_neg stop
    -- No directive is skipped, so the content is the one that the condition is about.
    rw [stays] at crossed here
    refine .inr ⟨plain, fun p e answered => ?_⟩
    change readProperties false 3 .none ((Cursor.start text).skipByteOrderMark.skipDirectives
      (text.length + 1)).skipLayout.1 = .ok (p, e) at answered
    rw [stays, here, Cursor.skipLayout_skipLayout] at answered
    simp only [beginsCollection, crossed, answered, Bool.false_or] at content
    -- Properties may take the content to another line.
    cases known : p.crossed with
    | true => exact .inl rfl
    | false =>
      have kind : opensCollection text.length e = false := by simpa [known] using content
      exact .inr ⟨rfl, plain, kind⟩

end Yaml

/-- A byte order mark moves what is read of a text by its three bytes, error or not, unless the text
is YAML that begins with something that is read by its column. -/
theorem byte_order_mark_moves_offsets (format : Format) {text : String}
    (unmarked : text.toList.head? ≠ some '\uFEFF')
    (free : format = .json ∨ firstLineColumns text.toList = false) :
    readDocument format (withMark text) = shiftReading 3 (readDocument format text) := by
  -- The marked text is a respelling of the text: every reader takes the same steps on both, three
  -- bytes apart.
  have marks : (withMark text).toList = '\uFEFF' :: text.toList := String.toList_ofList
  have agree : (Respelling.marked text.toList).Agree (Respelling.marked text.toList).Same
      (readDocument format text) (readDocument format (withMark text)) := by
    unfold readDocument
    rw [marks]
    cases format with
    | json => exact JsonText.read_agree (Respelling.marked_alike unmarked)
    | yaml => exact Yaml.read_marked_agree unmarked (free.resolve_left (by decide))
  exact (Respelling.marked_moves _).reading_eq agree

/-- Behind a comment line, a mapping is moved by the mark. -/
theorem mapping_behind_comment_is_moved :
    firstLineColumns "# x\na: 1\nb: 2\n".toList = false ∧
      readDocument .yaml (withMark "# x\na: 1\nb: 2\n") =
        .ok (.mapping [⟨"a", ⟨7, 8⟩, .scalar (.number (.int 1)) ⟨10, 11⟩⟩,
          ⟨"b", ⟨12, 13⟩, .scalar (.number (.int 2)) ⟨15, 16⟩⟩] ⟨7, 16⟩) := by
  have free : firstLineColumns "# x\na: 1\nb: 2\n".toList = false := rfl
  refine ⟨free, ?_⟩
  -- The mapping begins on the second line.
  rw [byte_order_mark_moves_offsets .yaml (by decide) (.inr free)]
  rfl

/-- On the first line, the mark moves the first key of a mapping away from the margin, so that the
second one does not belong to it. -/
theorem mapping_behind_mark_is_refused :
    readDocument .yaml (withMark "a: 1\nb: 2\n") = .error ⟨8, .unexpectedContent⟩ ∧
      readDocument .yaml "a: 1\nb: 2\n" =
        .ok (.mapping [⟨"a", ⟨0, 1⟩, .scalar (.number (.int 1)) ⟨3, 4⟩⟩,
          ⟨"b", ⟨5, 6⟩, .scalar (.number (.int 2)) ⟨8, 9⟩⟩] ⟨0, 9⟩) :=
  ⟨rfl, rfl⟩

end SpecTrace
