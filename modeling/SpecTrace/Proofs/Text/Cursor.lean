import SpecTrace.Document.SyntaxError
import SpecTrace.Yaml.Layout

/-! How far the text still to be read shrinks when a cursor moves. -/

namespace SpecTrace

/-- Two steps answer if the first one does and the second one does with its answer. -/
theorem bind_eq_ok {ε α β : Type} {first : Except ε α} {second : α → Except ε β} {b : β} :
    (first >>= second) = .ok b ↔ ∃ a, first = .ok a ∧ second a = .ok b := by
  cases first <;> simp [bind, Except.bind]

/-- A refusal answers nothing. -/
@[simp] theorem fail_ne_ok {α : Type} {c : Cursor} {fault : SyntaxFault} {a : α} :
    c.fail fault = .ok a ↔ False := by
  simp [Cursor.fail]

namespace Cursor

/-- The number of characters not read yet. -/
def left (c : Cursor) : Nat :=
  c.rest.length

/-- One character further, the first character is gone. -/
@[simp] theorem rest_next (c : Cursor) : c.next.rest = c.rest.tail := by
  unfold next
  split <;> simp_all

/-- A number of characters further, that many are gone. -/
@[simp] theorem rest_advance (n : Nat) (c : Cursor) : (c.advance n).rest = c.rest.drop n := by
  -- The position is general, as the induction goes on from the next one.
  induction n generalizing c with
  | zero => rfl
  | succ n ih => rw [advance, ih, rest_next, List.drop_tail]

/-- Moving by one character leaves no more than before. -/
theorem left_next_le (c : Cursor) : c.next.left ≤ c.left := by
  simp only [left, rest_next, List.length_tail]
  omega

/-- Moving past a character that is there leaves one less. -/
theorem left_next_of_peek {c : Cursor} {ch : Char} (there : c.peek = some ch) :
    c.next.left + 1 = c.left := by
  unfold peek at there
  simp only [left, rest_next, List.length_tail]
  -- There is a first character, so its place is not the end of the text.
  cases rest : c.rest with
  | nil => simp [rest] at there
  | cons first others => simp

/-- Moving by a number of characters leaves that many less. -/
theorem left_advance (n : Nat) (c : Cursor) : (c.advance n).left = c.left - n := by
  simp only [left, rest_advance, List.length_drop]

/-- Moving on leaves no more than before. -/
theorem left_advance_le (n : Nat) (c : Cursor) : (c.advance n).left ≤ c.left := by
  rw [left_advance]
  omega

/-- Skipping a run of characters leaves no more than before. -/
theorem left_skipWhile_le (p : Char → Bool) (c : Cursor) : (c.skipWhile p).left ≤ c.left :=
  left_advance_le _ c

/-- Skipping a byte order mark leaves no more than before. -/
theorem left_skipByteOrderMark_le (c : Cursor) : c.skipByteOrderMark.left ≤ c.left := by
  unfold skipByteOrderMark
  split
  · exact left_next_le c
  · exact Nat.le_refl _

/-- Skipping layout leaves no more than before. -/
theorem left_skipLayout_le (c : Cursor) : c.skipLayout.1.left ≤ c.left :=
  left_advance_le _ c

/-- A line break that is skipped takes at least one character. -/
theorem left_skipBreak?_le {c after : Cursor} (skipped : c.skipBreak? = some after) :
    after.left ≤ c.left := by
  unfold skipBreak? at skipped
  split at skipped
  · -- A carriage return takes a line feed behind it along.
    cases skipped
    exact left_advance_le _ c
  · split at skipped
    · cases skipped
      exact left_next_le c
    · cases skipped

/-- Skipping a line break, if there is one, leaves no more than before. -/
theorem left_skipBreak_le (c : Cursor) : c.skipBreak.left ≤ c.left := by
  unfold skipBreak
  cases skipped : c.skipBreak? with
  | none => exact Nat.le_refl _
  | some after => exact left_skipBreak?_le skipped

/-- Skipping blank lines leaves no more than before. -/
theorem left_skipBlankLines_le (c : Cursor) : c.skipBlankLines.1.left ≤ c.left :=
  left_advance_le _ c

/-- Skipping directives leaves no more than before. -/
theorem left_skipDirectives_le (bound : Nat) (c : Cursor) :
    (c.skipDirectives bound).left ≤ c.left := by
  -- The bound counts directives, and each of them starts where the one before it ended.
  induction bound generalizing c with
  | zero => exact Nat.le_refl _
  | succ bound ih =>
    unfold skipDirectives
    have layout := left_skipLayout_le c
    dsimp only
    split
    · -- A directive takes its line, and more may follow.
      have line := left_skipWhile_le (fun ch => !isBreak ch) c.skipLayout.1
      have others := ih c.skipLayout.1.skipLine
      unfold skipLine at others ⊢
      omega
    · exact layout

end Cursor

end SpecTrace
