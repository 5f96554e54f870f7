import SpecTrace.Proofs.Respelling.Positions

/-! Positions that are reached by moving on, and the offsets between the characters of a text at
which they stand. -/

namespace SpecTrace

/-! ### Moving on -/

namespace Cursor

/-- Moving on from the first position leads to the second one. -/
def Reaches (c d : Cursor) : Prop :=
  ∃ word, c.Passes word d

namespace Reaches

variable {c d e : Cursor}

/-- Every position is reached from itself. -/
theorem refl (c : Cursor) : c.Reaches c :=
  ⟨[], .refl c⟩

/-- What is reached from a position that is reached is reached as well. -/
theorem trans (first : c.Reaches d) (second : d.Reaches e) : c.Reaches e := by
  obtain ⟨front, passed⟩ := first
  obtain ⟨back, further⟩ := second
  exact ⟨front ++ back, passed.trans further⟩

/-- Offsets grow on the way. -/
theorem offset_le (reached : c.Reaches d) : c.offset ≤ d.offset := by
  obtain ⟨word, passed⟩ := reached
  rw [passed.offset]
  exact Nat.le_add_right _ _

/-- A position that is reached stands in the same text. -/
theorem standsIn {text : List Char} (reached : c.Reaches d) (stands : c.StandsIn text) :
    d.StandsIn text := by
  obtain ⟨word, passed⟩ := reached
  exact stands.pass passed

end Reaches

/-- A number of characters further, a position is reached. -/
theorem reaches_advance (count : Nat) (c : Cursor) : c.Reaches (c.advance count) :=
  ⟨_, c.passes_take count⟩

/-- One character further, a position is reached. -/
theorem reaches_next (c : Cursor) : c.Reaches c.next :=
  reaches_advance 1 c

/-- Behind a run of characters, a position is reached. -/
theorem reaches_skipWhile (p : Char → Bool) (c : Cursor) : c.Reaches (c.skipWhile p) :=
  reaches_advance _ c

/-- Behind a byte order mark, a position is reached. -/
theorem reaches_skipByteOrderMark (c : Cursor) : c.Reaches c.skipByteOrderMark := by
  unfold skipByteOrderMark
  split
  · exact reaches_next c
  · exact .refl c

/-- Behind layout, a position is reached. -/
theorem reaches_skipLayout (c : Cursor) : c.Reaches c.skipLayout.1 :=
  reaches_advance _ c

/-- Behind a line break, a position is reached. -/
theorem reaches_skipBreak? {c after : Cursor} (skipped : c.skipBreak? = some after) :
    c.Reaches after := by
  unfold skipBreak? at skipped
  split at skipped
  · -- A carriage return takes a line feed behind it along.
    cases skipped
    exact reaches_advance 2 c
  · split at skipped
    · -- No break was there to be skipped.
      cases skipped
      exact reaches_next c
    · cases skipped

/-- Behind a line break that may be missing, a position is reached. -/
theorem reaches_skipBreak (c : Cursor) : c.Reaches c.skipBreak := by
  unfold skipBreak
  cases skipped : c.skipBreak? with
  | none => exact .refl c
  | some after => exact reaches_skipBreak? skipped

/-- Behind blank lines, a position is reached. -/
theorem reaches_skipBlankLines (c : Cursor) : c.Reaches c.skipBlankLines.1 :=
  reaches_advance _ c

/-- Behind directives, a position is reached. -/
theorem reaches_skipDirectives (bound : Nat) (c : Cursor) :
    c.Reaches (c.skipDirectives bound) := by
  induction bound generalizing c with
  | zero => exact .refl c
  | succ bound ih =>
    unfold skipDirectives
    have layout := reaches_skipLayout c
    dsimp only
    split
    · -- A directive takes its line, and more may follow.
      have line := reaches_skipWhile (fun ch => !isBreak ch) c.skipLayout.1
      exact layout.trans (line.trans (ih _))
    · exact layout

end Cursor

/-! ### Boundaries -/

/-- A byte offset between two characters of a text, at its beginning or at its end. -/
def IsBoundary (text : String) (offset : Nat) : Prop :=
  String.Pos.Raw.IsValid text ⟨offset⟩

instance (text : String) (offset : Nat) : Decidable (IsBoundary text offset) :=
  inferInstanceAs (Decidable (String.Pos.Raw.IsValid text ⟨offset⟩))

/-- A text of characters has as many bytes as they take. -/
theorem byteLength_eq (text : List Char) : byteLength text = (String.ofList text).utf8ByteSize := by
  induction text with
  | nil => rfl
  | cons c rest ih =>
    -- The first character is split off, as sizes of texts are known for texts put together.
    have split : String.ofList (c :: rest) = String.singleton c ++ String.ofList rest := by
      rw [← String.toList_inj, String.toList_append, String.toList_ofList, String.toList_ofList,
        String.toList_singleton, List.singleton_append]
    rw [split, String.utf8ByteSize_append, String.utf8ByteSize_singleton, byteLength_cons, ih]

/-- The characters of a text take as many bytes as it has. -/
theorem byteLength_toList (text : String) : byteLength text.toList = text.utf8ByteSize := by
  rw [byteLength_eq, String.ofList_toList]

/-- A boundary has a beginning of the text in front of it. -/
theorem isBoundary_iff {text : String} {offset : Nat} :
    IsBoundary text offset ↔
      ∃ front back, text.toList = front ++ back ∧ offset = byteLength front := by
  unfold IsBoundary
  -- A valid position is one behind a beginning of the text; only the form of the beginning differs.
  rw [String.Pos.Raw.isValid_iff_exists_append]
  constructor
  · rintro ⟨front, back, rfl, same⟩
    refine ⟨front.toList, back.toList, String.toList_append, ?_⟩
    rw [byteLength_toList]
    exact congrArg String.Pos.Raw.byteIdx same
  · rintro ⟨front, back, whole, rfl⟩
    refine ⟨String.ofList front, String.ofList back, ?_, ?_⟩
    · rw [← String.ofList_append, ← whole, String.ofList_toList]
    · rw [byteLength_eq]
      rfl

/-- No boundary lies behind the end of the text. -/
theorem IsBoundary.le {text : String} {offset : Nat} (boundary : IsBoundary text offset) :
    offset ≤ text.utf8ByteSize := by
  obtain ⟨front, back, whole, rfl⟩ := isBoundary_iff.mp boundary
  rw [← byteLength_toList, whole, byteLength_append]
  exact Nat.le_add_right _ _

/-- A position in a text stands at a boundary. -/
theorem Cursor.StandsIn.isBoundary {text : String} {c : Cursor} (stands : c.StandsIn text.toList) :
    IsBoundary text c.offset := by
  obtain ⟨front, whole, offset⟩ := stands
  exact isBoundary_iff.mpr ⟨front, c.rest, whole, offset⟩

/-- The next character at a position in a text is one of the text. -/
theorem Cursor.StandsIn.mem_of_peek {text : List Char} {c : Cursor} {ch : Char}
    (stands : c.StandsIn text) (there : c.peek = some ch) : ch ∈ text := by
  obtain ⟨front, whole, _⟩ := stands
  rw [whole]
  exact List.mem_append_right _ (List.mem_of_mem_head? there)

/-- Inside of a character there is no boundary. -/
theorem not_isBoundary_inside {text : String} {front back : List Char} {c : Char} {offset : Nat}
    (whole : text.toList = front ++ c :: back) (behind : byteLength front < offset)
    (before : offset < byteLength front + c.utf8Size) : ¬IsBoundary text offset := by
  intro boundary
  obtain ⟨start, rest, split, rfl⟩ := isBoundary_iff.mp boundary
  -- Of two beginnings of one text, one begins the other.
  rcases List.append_eq_append_iff.mp (whole.symm.trans split) with
    ⟨more, same, after⟩ | ⟨more, same, _⟩
  · -- It goes on behind the boundary in front, so the character is in it.
    cases more with
    | nil => simp [same] at behind
    | cons first others =>
      rw [same, byteLength_append, byteLength_cons] at before
      rw [List.cons_append, List.cons.injEq] at after
      rw [after.1] at before
      omega
  · rw [same, byteLength_append] at behind
    omega

end SpecTrace
