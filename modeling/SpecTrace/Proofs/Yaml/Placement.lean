import SpecTrace.Proofs.Yaml.Reading
import SpecTrace.Proofs.Yaml.ScalarSpans

/-! What it means that pieces of YAML nodes are read in their places: they lie in the text, and
unless an alias is copied they are nested and stand one behind the other. -/

namespace SpecTrace.Yaml

/-- A state at a position in a text, whose anchored nodes lie in the text. -/
structure State.Sound (text : String) (s : State) : Prop where
  stands : s.cursor.StandsIn text.toList
  anchored : ∀ anchor ∈ s.anchors, anchor.2.Throughout (Node.FitsIn text)

/-- A state is as good at a position that is reached from it. -/
theorem State.Sound.moveTo {text : String} {s : State} {c : Cursor} (sound : s.Sound text)
    (reached : s.cursor.Reaches c) : (s.moveTo c).Sound text :=
  ⟨reached.standsIn sound.stands, sound.anchored⟩

/-- Between two states pieces were read that end at an offset. They lie in the text; and unless an
alias was copied, for which there has to be an asterisk in the text, they are tidy, and the second
state is not in front of their end. -/
structure Placed (text : String) (s : State) (pieces : List Piece) (stop : Nat) (after : State) :
    Prop where
  reached : s.cursor.Reaches after.cursor
  sound : after.Sound text
  fits : ∀ piece ∈ pieces, piece.FitsIn text
  boundary : IsBoundary text stop
  behind : s.cursor.offset ≤ stop
  copied : s.copied ≤ after.copied
  unmarked : '*' ∉ text.toList → after.copied = s.copied
  tidy : after.copied = s.copied →
    Tidy s.cursor.offset pieces stop ∧ stop ≤ after.cursor.offset

namespace Placed

variable {text : String} {s read after : State} {front back pieces : List Piece} {piece : Piece}
  {node : Node} {middle stop : Nat} {c : Cursor}

/-- Nothing was read. -/
theorem nothing (sound : s.Sound text) : Placed text s [] s.cursor.offset s :=
  ⟨.refl _, sound, List.forall_mem_nil _, sound.stands.isBoundary, Nat.le_refl _, Nat.le_refl _,
    fun _ => rfl, fun _ => ⟨⟨.nil (Nat.le_refl _), List.forall_mem_nil _⟩, Nat.le_refl _⟩⟩

/-- A piece was read from a position up to another one. -/
theorem single (sound : s.Sound text) (spanned : s.cursor.Spanned piece.span c)
    (fits : piece.FitsIn text) (nested : piece.Nested) :
    Placed text s [piece] c.offset (s.moveTo c) := by
  have there := sound.moveTo spanned.reached
  have forward := spanned.reached.offset_le
  refine ⟨spanned.reached, there, List.forall_mem_singleton.mpr fits, there.stands.isBoundary,
    forward, Nat.le_refl _, fun _ => rfl, ?_⟩
  intro _
  -- A row of one piece begins and ends with its span.
  refine ⟨⟨?_, List.forall_mem_singleton.mpr nested⟩, Nat.le_refl _⟩
  refine .single ?_ ?_ ?_ <;> rw [spanned.span]
  exact forward

/-- A key was read. -/
theorem key {span : Span} (sound : s.Sound text) (spanned : s.cursor.Spanned span c) :
    Placed text s [.key span] c.offset (s.moveTo c) :=
  single sound spanned (spanned.fitsIn sound.stands) trivial

/-- A node without children was read. -/
theorem scalar {value : Scalar} {span : Span} (sound : s.Sound text)
    (spanned : s.cursor.Spanned span c) :
    Placed text s [.child (.scalar value span)] c.offset (s.moveTo c) := by
  have fits := spanned.fitsIn sound.stands
  refine single sound spanned (Node.throughout_fitsIn fits (List.forall_mem_nil _)) ?_
  exact Tidy.throughout ⟨.nil fits.ordered, List.forall_mem_nil _⟩

/-- An empty node was found at a position. -/
theorem empty (sound : s.Sound text) :
    Placed text s [.child (.empty s.cursor.offset)] s.cursor.offset s :=
  scalar sound ⟨.refl _, rfl⟩

/-- What is read from a later position is read from an earlier one as well. -/
theorem earlier (placed : Placed text (s.moveTo c) pieces stop after)
    (reached : s.cursor.Reaches c) : Placed text s pieces stop after := by
  refine { placed with reached := reached.trans placed.reached,
                       behind := Nat.le_trans reached.offset_le placed.behind, tidy := ?_ }
  intro same
  obtain ⟨tidy, before⟩ := placed.tidy same
  exact ⟨tidy.widen reached.offset_le (Nat.le_refl _), before⟩

/-- Moving on behind what was read changes nothing about it. -/
theorem later (placed : Placed text s pieces stop read) (reached : read.cursor.Reaches c) :
    Placed text s pieces stop (read.moveTo c) := by
  refine { placed with reached := placed.reached.trans reached,
                       sound := placed.sound.moveTo reached, tidy := ?_ }
  intro same
  obtain ⟨tidy, before⟩ := placed.tidy same
  exact ⟨tidy, Nat.le_trans before reached.offset_le⟩

/-- What was read ends where the state behind it is. -/
theorem toEnd (placed : Placed text s pieces stop after) :
    Placed text s pieces after.cursor.offset after := by
  refine { placed with boundary := placed.sound.stands.isBoundary,
                       behind := placed.reached.offset_le, tidy := ?_ }
  intro same
  obtain ⟨tidy, before⟩ := placed.tidy same
  exact ⟨tidy.widen (Nat.le_refl _) before, Nat.le_refl _⟩

/-- The later of two boundaries is a boundary. -/
theorem isBoundary_max {first second : Nat} (one : IsBoundary text first)
    (two : IsBoundary text second) : IsBoundary text (max first second) := by
  rcases Nat.le_total first second with le | le
  · rw [Nat.max_eq_right le]
    exact two
  · rw [Nat.max_eq_left le]
    exact one

/-- A single piece ends with its own span. -/
theorem tighten (sound : s.Sound text) (placed : Placed text s [piece] stop after) :
    Placed text s [piece] (max s.cursor.offset piece.span.stop) after := by
  have fits := (placed.fits piece List.mem_cons_self).span
  refine { placed with boundary := isBoundary_max sound.stands.isBoundary fits.stop,
                       behind := Nat.le_max_left _ _, tidy := ?_ }
  intro same
  obtain ⟨tidy, before⟩ := placed.tidy same
  -- The piece lies in the row that ended later.
  have within := tidy.row.within piece List.mem_cons_self
  have forward := placed.reached.offset_le
  refine ⟨⟨.single within.1 fits.ordered (Nat.le_max_right _ _), tidy.nested⟩, ?_⟩
  omega

/-- What is read behind pieces that were read stands behind them. -/
theorem append (first : Placed text s front middle read)
    (second : Placed text read back stop after) :
    Placed text s (front ++ back) (max middle stop) after := by
  refine ⟨first.reached.trans second.reached, second.sound,
    List.forall_mem_append.mpr ⟨first.fits, second.fits⟩,
    isBoundary_max first.boundary second.boundary,
    Nat.le_trans first.behind (Nat.le_max_left _ _),
    Nat.le_trans first.copied second.copied,
    fun none => (second.unmarked none).trans (first.unmarked none), ?_⟩
  intro same
  have fewer := first.copied
  have more := second.copied
  -- Neither of the two parts copied anything.
  obtain ⟨front, before⟩ := first.tidy (by omega)
  obtain ⟨back, behind⟩ := second.tidy (by omega)
  have last := back.row.le
  rw [Nat.max_eq_right (Nat.le_trans before last)]
  -- The front ends where the back begins, at the latest.
  exact ⟨front.append (back.widen before (Nat.le_refl _)), behind⟩

/-- Another scalar takes the place of a scalar. -/
theorem retag {value : Scalar} {span : Span} (other : Scalar)
    (placed : Placed text s [.child (.scalar value span)] stop after) :
    Placed text s [.child (.scalar other span)] stop after := by
  have fits := (placed.fits _ List.mem_cons_self).span
  -- A scalar has no children, whatever its value.
  have alone : (Node.scalar other span).Throughout (Node.FitsIn text) :=
    Node.throughout_fitsIn fits (List.forall_mem_nil _)
  refine { placed with fits := List.forall_mem_singleton.mpr alone, tidy := ?_ }
  intro same
  obtain ⟨⟨row, _⟩, before⟩ := placed.tidy same
  have within := row.within _ List.mem_cons_self
  refine ⟨⟨.single within.1 fits.ordered within.2, List.forall_mem_singleton.mpr ?_⟩, before⟩
  exact Tidy.throughout ⟨.nil fits.ordered, List.forall_mem_nil _⟩

/-- A node that was read may be anchored. -/
theorem record (placed : Placed text s [.child node] stop read) (name : String) :
    Placed text s [.child node] stop { read with anchors := (name, node) :: read.anchors } := by
  have fits := List.forall_mem_singleton.mp placed.fits
  exact { placed with sound := ⟨placed.sound.stands,
    List.forall_mem_cons.mpr ⟨fits, placed.sound.anchored⟩⟩ }

/-- A collection around pieces that were read takes their place. -/
theorem collect (sound : s.Sound text) (placed : Placed text s node.pieces stop after)
    (span : node.span = ⟨s.cursor.offset, stop⟩) :
    Placed text s [.child node] after.cursor.offset after := by
  have here : node.span.FitsIn text := by
    rw [span]
    exact Span.fitsIn placed.behind sound.stands.isBoundary placed.boundary
  refine { placed.toEnd with fits := ?_, tidy := ?_ }
  · exact List.forall_mem_singleton.mpr (Node.throughout_fitsIn here placed.fits)
  · intro same
    obtain ⟨tidy, before⟩ := placed.tidy same
    refine ⟨⟨.single ?_ here.ordered ?_, List.forall_mem_singleton.mpr ?_⟩, Nat.le_refl _⟩
    · rw [Piece.span, span]
    · rw [Piece.span, span]
      exact before
    · -- The pieces of the collection are what was read.
      apply Tidy.throughout
      rw [span]
      exact tidy

/-- A pair of a key and a value takes the place of both. -/
theorem pair {value : Scalar} {keySpan : Span} {child : Node} (name : String)
    (placed : Placed text s [.child (.scalar value keySpan), .child child] stop after) :
    Placed text s
      [.child (.mapping [⟨name, keySpan, child⟩] ⟨keySpan.start, max child.span.stop keySpan.stop⟩)]
      after.cursor.offset after := by
  obtain ⟨key, rest⟩ := List.forall_mem_cons.mp placed.fits
  have below := List.forall_mem_singleton.mp rest
  have keyFits := key.span
  have forward := keyFits.ordered
  have here : Span.FitsIn text ⟨keySpan.start, max child.span.stop keySpan.stop⟩ :=
    Span.fitsIn (Nat.le_trans forward (Nat.le_max_right _ _)) keyFits.start
      (isBoundary_max below.span.stop keyFits.stop)
  refine { placed.toEnd with fits := ?_, tidy := ?_ }
  · refine List.forall_mem_singleton.mpr (Node.throughout_fitsIn here ?_)
    exact List.forall_mem_cons.mpr ⟨keyFits, List.forall_mem_singleton.mpr below⟩
  · intro same
    obtain ⟨⟨row, nested⟩, before⟩ := placed.tidy same
    obtain ⟨_, deep⟩ := List.forall_mem_cons.mp nested
    -- The row has two pieces: the key, and the value behind it.
    cases row with
    | cons first _ more =>
      cases more with
      | cons second ordered last =>
        have ends := last.le
        dsimp only [Piece.span, Node.span] at first second ordered ends
        refine ⟨⟨.single first here.ordered ?_, List.forall_mem_singleton.mpr ?_⟩, Nat.le_refl _⟩
        · dsimp only [Piece.span, Node.span]
          omega
        · -- The key keeps its place in front of the value.
          refine Tidy.throughout ⟨.cons (Nat.le_refl _) forward ?_, ?_⟩
          · exact .single second ordered (Nat.le_max_left _ _)
          · exact List.forall_mem_cons.mpr ⟨trivial, deep⟩

end Placed

end SpecTrace.Yaml
