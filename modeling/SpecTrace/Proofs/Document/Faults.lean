import SpecTrace.Document.Format
import SpecTrace.Proofs.Text.Boundaries

/-! Where in a text its readers find faults, and what they conclude if they find none. -/

namespace SpecTrace

/-- The offset of a fault is that of the last byte of a character, of several bytes, that is escaped
by a backslash. -/
def SyntaxError.SplitsEscape (text : String) (e : SyntaxError) : Prop :=
  e.fault = .invalidEscapeSequence ∧ ∃ front letter back,
    text.toList = front ++ '\\' :: letter :: back ∧ 1 < letter.utf8Size ∧
      e.offset = byteLength front + letter.utf8Size

/-- A fault in a text is found at a boundary, or in YAML in an escaped character. -/
def SyntaxError.Blames (format : Format) (text : String) (e : SyntaxError) : Prop :=
  IsBoundary text e.offset ∨ format = .yaml ∧ e.SplitsEscape text

/-- In an escaped character there is no boundary. -/
theorem SyntaxError.SplitsEscape.not_isBoundary {text : String} {e : SyntaxError}
    (splits : e.SplitsEscape text) : ¬IsBoundary text e.offset := by
  obtain ⟨_, front, letter, back, whole, several, offset⟩ := splits
  -- The offset lies behind the first byte of the escaped letter and before its end.
  have spelled : text.toList = (front ++ ['\\']) ++ letter :: back := by
    rw [whole, List.append_assoc, List.singleton_append]
  have behind : byteLength (front ++ ['\\']) = byteLength front + 1 := byteLength_append _ _
  exact not_isBoundary_inside spelled (by omega) (by omega)

/-- Every fault is found in the text. -/
theorem SyntaxError.Blames.le {format : Format} {text : String} {e : SyntaxError}
    (blames : e.Blames format text) : e.offset ≤ text.utf8ByteSize := by
  rcases blames with boundary | ⟨_, _, front, letter, back, whole, _, offset⟩
  · exact boundary.le
  · -- The escaped letter stands in the text with all its bytes.
    rw [offset, ← byteLength_toList, whole]
    simp only [byteLength_append, byteLength_cons]
    omega

variable {α β : Type} {format : Format} {text : String} {answers others : α → Prop}
  {c d : Cursor}

/-- A reading answers something that satisfies a condition, or finds a fault in the text. -/
inductive Concludes (format : Format) (text : String) (answers : α → Prop) : Reading α → Prop
  | ok {a : α} (holds : answers a) : Concludes format text answers (.ok a)
  | error {e : SyntaxError} (blames : e.Blames format text) :
      Concludes format text answers (.error e)

namespace Concludes

/-- A reading in two steps concludes what the second step does from what the first one did. -/
theorem bind {reading : Reading α} {next : α → Reading β} {further : β → Prop}
    (first : Concludes format text answers reading)
    (second : ∀ a, answers a → Concludes format text further (next a)) :
    Concludes format text further (reading >>= next) := by
  -- A fault of the first step is that of both.
  cases first with
  | ok holds => exact second _ holds
  | error blames => exact .error blames

/-- What follows from an answer is concluded as well. -/
theorem imp {reading : Reading α} (concludes : Concludes format text answers reading)
    (weaker : ∀ a, answers a → others a) : Concludes format text others reading := by
  cases concludes with
  | ok holds => exact .ok (weaker _ holds)
  | error blames => exact .error blames

/-- A fault at a boundary is in the text. -/
theorem fault {offset : Nat} (boundary : IsBoundary text offset) (fault : SyntaxFault) :
    Concludes format text answers (.error ⟨offset, fault⟩) :=
  .error (.inl boundary)

/-- A fault at a position is in the text. -/
theorem fail (stands : c.StandsIn text.toList) (fault : SyntaxFault) :
    Concludes format text answers (c.fail fault) :=
  .fault stands.isBoundary fault

/-- A repeated key is found where it stands. -/
theorem refuseRepeated {offset : Nat} (boundary : IsBoundary text offset) (seen : List String)
    (key : String) :
    Concludes format text (fun _ => True) (refuseRepeated seen key offset) := by
  unfold SpecTrace.refuseRepeated
  split
  · exact .fault boundary _
  · exact .ok trivial

end Concludes

/-- From every position in a text, a reader moves on to the position of its answer, or finds a fault
in the text. -/
def Advances (format : Format) (text : String) (after : α → Cursor)
    (reader : Cursor → Reading α) : Prop :=
  ∀ c : Cursor, c.StandsIn text.toList →
    Concludes format text (fun a => c.Reaches (after a)) (reader c)

/-- A reader moves on from where another one moved on to. -/
theorem Advances.onward {after : α → Cursor} {reader : Cursor → Reading α}
    (advances : Advances format text after reader) (stands : c.StandsIn text.toList)
    (reached : c.Reaches d) :
    Concludes format text (fun a => c.Reaches (after a)) (reader d) :=
  (advances d (reached.standsIn stands)).imp fun _ further => reached.trans further

end SpecTrace
