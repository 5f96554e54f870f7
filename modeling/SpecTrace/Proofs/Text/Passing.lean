import SpecTrace.Proofs.Text.Cursor

/-! Which text lies between two reading positions, and where the second one then stands. -/

namespace SpecTrace

/-- Texts one behind the other take their bytes together. -/
@[simp] theorem byteLength_append (front back : List Char) :
    byteLength (front ++ back) = byteLength front + byteLength back := by
  induction front with
  | nil => simp [byteLength]
  | cons c rest ih =>
    simp only [List.cons_append, byteLength, ih]
    omega

@[simp] theorem byteLength_nil : byteLength [] = 0 := rfl

@[simp] theorem byteLength_cons (c : Char) (rest : List Char) :
    byteLength (c :: rest) = c.utf8Size + byteLength rest := rfl

/-- Characters of one byte each take as many bytes as there are of them. -/
theorem byteLength_of_single {text : List Char} (single : ∀ c ∈ text, c.utf8Size = 1) :
    byteLength text = text.length := by
  -- Every character adds one byte and one to the length.
  induction text with
  | nil => rfl
  | cons c rest ih =>
    have one := single c List.mem_cons_self
    have others := ih fun d member => single d (List.mem_cons_of_mem _ member)
    simp only [byteLength_cons, List.length_cons]
    omega

/-- The bytes of a text cut exactly that text off what goes on behind it. -/
theorem takeBytes_append (text tail : List Char) :
    takeBytes (byteLength text) (text ++ tail) = text := by
  -- The cut ends exactly where the tail begins, of which not even one byte fits.
  induction text with
  | nil => cases tail <;> simp [takeBytes, Nat.not_le.mpr (Char.utf8Size_pos _)]
  | cons c rest ih =>
    simp only [List.cons_append, byteLength_cons, takeBytes]
    rw [if_pos (by omega), Nat.add_sub_cancel_left, ih]

/-- Behind its first bytes, the rest of a text is left. -/
theorem dropBytes_append (front rest : List Char) :
    dropBytes (byteLength front) (front ++ rest) = rest := by
  -- The count of bytes goes down by those of each character that is dropped.
  induction front with
  | nil => cases rest <;> rfl
  | cons c others ih =>
    -- The first character takes a byte at least, so it is dropped.
    have size := c.utf8Size_pos
    obtain ⟨bytes, more⟩ := Nat.exists_eq_succ_of_ne_zero
      (show byteLength (c :: others) ≠ 0 by rw [byteLength_cons]; omega)
    rw [more, List.cons_append, dropBytes, ← more, byteLength_cons, Nat.add_sub_cancel_left, ih]
    exact more ▸ Nat.succ_ne_zero _

namespace Cursor

/-- Moving on twice is moving on by both numbers together. -/
theorem advance_add (m n : Nat) (c : Cursor) : c.advance (m + n) = (c.advance m).advance n := by
  -- The first steps are taken one by one, and the others from where they lead.
  induction m generalizing c with
  | zero => rw [Nat.zero_add]; rfl
  | succ m ih => rw [Nat.add_right_comm]; exact ih c.next

/-- A text that stands between two positions. -/
structure Passes (c : Cursor) (text : List Char) (after : Cursor) : Prop where
  rest : c.rest = text ++ after.rest
  moved : after = c.advance text.length

namespace Passes

variable {c d e : Cursor} {text front back : List Char}

/-- Nothing stands between a position and itself. -/
theorem refl (c : Cursor) : c.Passes [] c :=
  ⟨rfl, rfl⟩

/-- Texts that follow one another are passed one after the other. -/
theorem trans (first : c.Passes front d) (second : d.Passes back e) :
    c.Passes (front ++ back) e := by
  refine ⟨?_, ?_⟩
  · rw [first.rest, second.rest, List.append_assoc]
  · rw [second.moved, first.moved, List.length_append, advance_add]

/-- A text that is there is passed by as many steps as it has characters. -/
theorem of_rest {tail : List Char} (there : c.rest = text ++ tail) :
    c.Passes text (c.advance text.length) :=
  ⟨by rw [rest_advance, there, List.drop_left], rfl⟩

/-- What is there in two parts has a position between them. -/
theorem split (passed : c.Passes (front ++ back) e) :
    ∃ d, c.Passes front d ∧ d.Passes back e := by
  -- The position between is where the steps of the first part lead.
  have there : c.rest = front ++ (back ++ e.rest) := by
    rw [passed.rest, List.append_assoc]
  have first := of_rest there
  refine ⟨_, first, ?_, ?_⟩
  · rw [rest_advance, there, List.drop_left]
  · rw [← advance_add, ← List.length_append]
    exact passed.moved

/-- One character is passed by one step. -/
theorem next {ch : Char} (there : c.peek = some ch) : c.Passes [ch] c.next := by
  refine ⟨?_, rfl⟩
  rw [rest_next]
  unfold peek at there
  -- The rest begins with the character.
  cases rest : c.rest with
  | nil => simp [rest] at there
  | cons first others =>
    rw [rest] at there
    simp only [List.head?_cons, Option.some.injEq] at there
    simp [there]

/-- The first character of a text that is passed comes next. -/
theorem peek {ch : Char} (passed : c.Passes (ch :: text) d) : c.peek = some ch := by
  unfold Cursor.peek
  rw [passed.rest]
  rfl

/-- Behind the first character the others are passed. -/
theorem tail {ch : Char} (passed : c.Passes (ch :: text) d) : c.next.Passes text d := by
  refine ⟨?_, passed.moved⟩
  rw [rest_next, passed.rest]
  rfl

/-- A character in front of a text is passed with it. -/
theorem cons {ch : Char} (there : c.peek = some ch) (passed : c.next.Passes text d) :
    c.Passes (ch :: text) d :=
  (next there).trans passed

/-- The same text leads to the same position. -/
theorem unique (first : c.Passes text d) (second : c.Passes text e) : d = e :=
  first.moved.trans second.moved.symm

/-- Without a text nothing moves. -/
theorem eq_of_nil (passed : c.Passes [] d) : d = c :=
  passed.unique (refl c)

/-- The offset grows by the bytes of the text. -/
theorem offset (passed : c.Passes text d) : d.offset = c.offset + byteLength text := by
  induction text generalizing c with
  | nil => rw [passed.eq_of_nil, byteLength_nil, Nat.add_zero]
  -- Each character adds its own bytes.
  | cons ch rest ih =>
    have step : c.next.offset = c.offset + ch.utf8Size := by
      unfold Cursor.next
      rw [passed.rest]
      rfl
    rw [ih passed.tail, step, byteLength_cons, Nat.add_assoc]

/-- What is left shrinks by the text. -/
theorem left (passed : c.Passes text d) : text.length + d.left = c.left := by
  unfold Cursor.left
  rw [passed.rest, List.length_append]

/-- A part of a text ends at a mark, behind which fewer characters are left. -/
theorem part {ch : Char} {count : Nat} (passed : c.Passes (front ++ ch :: back) e)
    (counted : c.left ≤ count) :
    ∃ d fewer, count = fewer + 1 ∧ c.Passes front d ∧ d.Passes (ch :: back) e ∧
      d.next.left ≤ fewer ∧ d.next.left ≤ c.left ∧
      d.next.offset = c.offset + byteLength front + ch.utf8Size := by
  obtain ⟨d, first, marked⟩ := passed.split
  -- The mark itself is one character that is no longer left.
  have mark := next marked.peek
  have before := first.left
  have behind := mark.left
  simp only [List.length_singleton] at behind
  refine ⟨d, count - 1, by omega, first, marked, by omega, by omega, ?_⟩
  rw [mark.offset, first.offset]
  rfl

/-- On a line the column grows by the bytes of the text. -/
theorem column (passed : c.Passes text d) (line : ∀ ch ∈ text, isBreak ch = false) :
    d.column = c.column + byteLength text := by
  induction text generalizing c with
  | nil => rw [passed.eq_of_nil, byteLength_nil, Nat.add_zero]
  -- No character of the line resets the column.
  | cons ch rest ih =>
    have step : c.next.column = c.column + ch.utf8Size := by
      unfold Cursor.next
      rw [passed.rest]
      simp [line ch List.mem_cons_self]
    have others := ih passed.tail fun d member => line d (List.mem_cons_of_mem _ member)
    rw [others, step, byteLength_cons, Nat.add_assoc]

/-- Behind a line break the column starts over. -/
theorem column_break {ch : Char} (passed : c.Passes (front ++ [ch]) d)
    (breaks : isBreak ch = true) : d.column = 0 := by
  -- Only the last character decides the column.
  obtain ⟨middle, _, last⟩ := passed.split
  rw [last.tail.eq_of_nil]
  unfold Cursor.next
  rw [last.rest]
  simp [breaks]

/-- The text between two positions is cut out by their offsets. -/
theorem textUpTo (passed : c.Passes text d) :
    takeBytes (d.offset - c.offset) c.rest = text := by
  rw [passed.offset, Nat.add_sub_cancel_left, passed.rest, takeBytes_append]

/-- A word that the text goes on with is passed. -/
theorem of_startsWith {word : List Char} (there : c.startsWith word = true) :
    c.Passes word (c.advance word.length) := by
  obtain ⟨tail, same⟩ := List.isPrefixOf_iff_prefix.mp there
  exact of_rest same.symm

/-- The text goes on with what is passed. -/
theorem startsWith (passed : c.Passes (front ++ back) d) : c.startsWith front = true := by
  unfold Cursor.startsWith
  rw [passed.rest, List.isPrefixOf_iff_prefix, List.append_assoc]
  exact List.prefix_append _ _

end Passes

/-- A number of characters are passed, or all that are left. -/
theorem passes_take (count : Nat) (c : Cursor) :
    c.Passes (c.rest.take count) (c.advance count) := by
  -- By induction on the number, with the cursor general since each step moves it.
  induction count generalizing c with
  | zero => exact .refl c
  | succ count ih =>
    cases left : c.rest with
    | nil =>
      -- At the end nothing moves any more.
      have stays : c.next = c := by simp [next, left]
      have further := ih c
      rw [left, List.take_nil] at further
      rw [List.take_nil, advance, stays]
      exact further
    | cons ch rest =>
      have there : c.peek = some ch := by simp [peek, left]
      have further := ih c.next
      rw [rest_next, left, List.tail_cons] at further
      exact .cons there further

/-- What is left of a text is passed by the text up to its end. -/
theorem passes_rest (c : Cursor) : ∃ d, c.Passes c.rest d ∧ d.rest = [] :=
  ⟨_, .of_rest (List.append_nil _).symm, by simp⟩

/-- A run of characters is skipped up to the first other one. -/
theorem passes_skipWhile (p : Char → Bool) (c : Cursor) :
    c.Passes (c.rest.takeWhile p) (c.skipWhile p) :=
  .of_rest List.takeWhile_append_dropWhile.symm

/-- Behind a run that was skipped the text without the run is left. -/
theorem rest_skipWhile (p : Char → Bool) (c : Cursor) :
    (c.skipWhile p).rest = c.rest.dropWhile p :=
  List.append_cancel_left
    ((passes_skipWhile p c).rest.symm.trans List.takeWhile_append_dropWhile.symm)

/-- Behind a run that was skipped comes a character of another kind, or nothing. -/
theorem peek_skipWhile {p : Char → Bool} {c : Cursor} {ch : Char}
    (next : (c.skipWhile p).peek = some ch) : p ch = false := by
  have other := List.head?_dropWhile_not p c.rest
  unfold peek at next
  rw [← rest_skipWhile, next] at other
  simpa using other

/-- A run is skipped to where it ends. -/
theorem Passes.skipWhile {p : Char → Bool} {c d : Cursor} {text : List Char}
    (passed : c.Passes text d) (run : ∀ ch ∈ text, p ch = true)
    (stop : ∀ ch, d.peek = some ch → p ch = false) : c.skipWhile p = d := by
  -- The run is taken as a whole: it goes on nowhere before its end, and what follows stops it.
  have taken : c.rest.takeWhile p = text := by
    rw [passed.rest, List.takeWhile_append_of_pos run]
    unfold Cursor.peek at stop
    cases rest : d.rest with
    | nil => simp
    | cons first others => simp [stop first (by simp [rest])]
  have skipped := passes_skipWhile p c
  rw [taken] at skipped
  exact skipped.unique passed

end Cursor

end SpecTrace
