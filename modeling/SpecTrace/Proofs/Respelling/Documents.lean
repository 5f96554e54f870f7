import SpecTrace.Document.Format
import SpecTrace.Proofs.Respelling.Block

/-! Whole documents are read alike from two spellings of a text. -/

namespace SpecTrace

namespace Cursor

/-- Behind skipped layout there is none. -/
theorem layoutFrom_layoutFrom (inComment : Bool) (c : Cursor) :
    (c.layoutFrom inComment).1.layoutFrom false = ((c.layoutFrom inComment).1, false) := by
  generalize left : c.rest = rest
  -- By induction on the lines and their characters, as layout is skipped.
  induction rest using lines_induction generalizing inComment c with
  | nil =>
    rw [layoutFrom_end left, layoutFrom_end left]
  | char ch rest inside ih =>
    have there : c.peek = some ch := by rw [peek, left]; rfl
    have behind : c.next.rest = rest := by rw [rest_next, left]; rfl
    rw [layoutFrom_char inside there]
    split
    · exact ih _ _ behind
    · rename_i noSpace
      split
      · exact ih _ _ behind
      · rename_i noComment
        -- The character stops the layout, in a comment or not.
        simp only [Bool.or_eq_true, not_or, Bool.not_eq_true] at noSpace
        rw [layoutFrom_char inside there, noSpace.2]
        simp [noComment]
  | line mark rest ends ih =>
    have passed := Passes.of_rest left
    have behind := List.append_cancel_left (passed.rest.symm.trans left)
    rw [← behind] at ends
    rw [layoutFrom_line ends passed]
    exact ih false _ behind

/-- Layout is skipped at once. -/
theorem skipLayout_skipLayout (c : Cursor) : c.skipLayout.1.skipLayout = (c.skipLayout.1, false) :=
  c.layoutFrom_layoutFrom false

end Cursor

namespace Respelling

variable {way : Respelling} {aligned : Prop} {n : Nat} {c d : Cursor}

/-- A byte order mark is skipped on both sides or on neither. -/
theorem Alike.skipByteOrderMark (alike : way.Alike aligned n c d) :
    way.Alike aligned n c.skipByteOrderMark d.skipByteOrderMark :=
  alike.pass (.ite (alike.peek_iff rfl) (alike.step_abreast rfl) fun _ => .refl c d)

/-- Where the whole texts have the same lines, offsets that meet have the same line. -/
theorem Meets.lineFor_eq {here there : Nat} (meets : way.Meets here there)
    (whole : SameLines n way.text way.respelt) :
    (LineIndex.ofText way.respelt).lineFor there = (LineIndex.ofText way.text).lineFor here := by
  obtain ⟨_, c, d, alike, rfl, rfl⟩ := meets
  obtain ⟨front, text, offset⟩ := alike.here
  obtain ⟨otherFront, respelt, otherOffset⟩ := alike.there
  have left := lineFor_append front c.rest
  have right := lineFor_append otherFront d.rest
  rw [← text, ← offset] at left
  rw [← respelt, ← otherOffset] at right
  -- As many lines end in the rests as in the texts.
  have rests := alike.lines.length_terminatorEnds 0 0
  have texts := whole.length_terminatorEnds 0 0
  omega

end Respelling

namespace Yaml

open Respelling

variable {way : Respelling} {aligned : Prop} {n : Nat} {c d : Cursor}

/-- Columns need not be looked at: the positions are aligned, or the root is a node that is read
without them. -/
def RootKnown (way : Respelling) (aligned : Prop) (c : Cursor) : Prop :=
  aligned ∨ way.Unmarked ∧ ∀ p e, readProperties false 3 .none c.skipLayout.1 = .ok (p, e) →
    p.crossed = true ∨ Inline way 0 e

/-- Documents are read alike from behind their opening markers. -/
theorem readRoot_agree (alike : way.Alike aligned n c d) (known : RootKnown way aligned c) :
    way.Agree way.Same (readRoot way.text c) (readRoot way.respelt d) := by
  -- Before the root no node is anchored on either side, so the two states agree.
  have begun : SameState way aligned n ⟨c, [], 0⟩ ⟨d, [], 0⟩ := ⟨alike, fun _ => .none, rfl⟩
  refine (readBlockNode_step (readBlockNode_agree _) 0 .document begun
    (known.imp_right fun free => .inr free.2)).bind ?_
  rintro ⟨root, s⟩ ⟨other, t⟩ ⟨same, after⟩
  exact (expectDocumentEnd_agree after.cursor (known.imp_right And.left)).bind fun _ _ _ =>
    .ok same

/-- Documents are read alike from behind their directives. -/
theorem readFrom_agree (alike : way.Alike aligned n c d) (known : RootKnown way aligned c) :
    way.Agree way.Same (readFrom way.text c) (readFrom way.respelt d) := by
  unfold readFrom
  rw [alike.atMarker (known.imp_right And.left) (.inl rfl)]
  split
  · rename_i marker
    simp only [Cursor.atMarker, Cursor.startsWithMarker, Bool.and_eq_true,
      decide_eq_true_eq] at marker
    -- A marker stands at aligned positions only.
    have aligned : way.Alike True n c d := by
      rcases alike.column with same | ⟨free, _, begins⟩
      · exact { alike with column := .inl same }
      · -- Away from the margin the text would have to begin with the marker, which it does not.
        have unmarked := (known.resolve_left free).1
        have opening := unmarked.opening
        simp only [Cursor.startsWithMarker, Cursor.startsWith, Cursor.start,
          ← begins marker.1] at opening
        simp only [Cursor.startsWith] at marker
        rw [marker.2.1, marker.2.2] at opening
        cases opening
    exact readRoot_agree (aligned.pass (aligned.word (unbroken_of_all rfl) marker.2.1))
      (.inl trivial)
  · exact readRoot_agree alike known

/-- Documents that begin at the margin on both sides are read alike. -/
theorem read_agree (alike : way.Alike True n (Cursor.start way.text).skipByteOrderMark
      (Cursor.start way.respelt).skipByteOrderMark) :
    way.Agree way.Same (read way.text) (read way.respelt) := by
  rw [read_eq, read_eq]
  have behind := alike.skipDirectives (.inl trivial) (Nat.lt_succ_of_le alike.room.1)
    (Nat.lt_succ_of_le alike.room.2)
  exact readFrom_agree (behind.narrow fun _ : True => .inl trivial) (.inl trivial)

end Yaml

end SpecTrace
