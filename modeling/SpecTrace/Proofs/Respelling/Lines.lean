import SpecTrace.Proofs.Text.Lines
import SpecTrace.Proofs.Text.Passing

/-! Texts with the same lines, however the lines end. -/

namespace SpecTrace

/-- A way to end a line in front of a text. -/
inductive Terminator : List Char → List Char → Prop
  | feed (rest : List Char) : Terminator ['\n'] rest
  | pair (rest : List Char) : Terminator ['\r', '\n'] rest
  /-- In front of a line feed, a carriage return would be half of a pair. -/
  | lone {rest : List Char} (apart : rest.head? ≠ some '\n') : Terminator ['\r'] rest

/-- Two texts with the same lines, of at most `n` characters if a terminator counts as one. -/
inductive SameLines : Nat → List Char → List Char → Prop
  | done {n : Nat} : SameLines n [] []
  | char {n : Nat} {c : Char} {text other : List Char} (inside : isBreak c = false)
      (same : SameLines n text other) : SameLines (n + 1) (c :: text) (c :: other)
  | line {n : Nat} {mark text otherMark other : List Char} (ends : Terminator mark text)
      (otherEnds : Terminator otherMark other) (same : SameLines n text other) :
      SameLines (n + 1) (mark ++ text) (otherMark ++ other)

/-- A break is a line feed or a carriage return. -/
theorem break_cases {c : Char} (breaks : isBreak c = true) : c = '\n' ∨ c = '\r' := by
  simpa [isBreak] using breaks

/-- A break is none of the characters of a line. -/
theorem ne_of_break {c x : Char} (breaks : isBreak c = true) (inside : isBreak x = false) :
    c ≠ x := by
  rintro rfl
  rw [inside] at breaks
  cases breaks

/-- Whether characters stand on one line can be computed. -/
theorem unbroken_of_all {word : List Char} (line : (word.all fun c => !isBreak c) = true) :
    ∀ c ∈ word, isBreak c = false := by
  simpa using line

/-- What is left of the line that a text begins with. -/
def lineOf (text : List Char) : List Char :=
  text.takeWhile fun c => !isBreak c

/-- No character of a line is a break. -/
theorem unbroken_lineOf {text : List Char} : ∀ c ∈ lineOf text, isBreak c = false := by
  intro c member
  simpa using List.all_eq_true.mp List.all_takeWhile c member

@[simp] theorem lineOf_nil : lineOf [] = [] := rfl

/-- A character that is no break belongs to the line. -/
theorem lineOf_cons {c : Char} (inside : isBreak c = false) (text : List Char) :
    lineOf (c :: text) = c :: lineOf text := by
  simp [lineOf, inside]

/-- A break ends the line. -/
theorem lineOf_break {c : Char} (breaks : isBreak c = true) (text : List Char) :
    lineOf (c :: text) = [] := by
  simp [lineOf, breaks]

namespace Terminator

variable {mark rest : List Char}

/-- The last character of a terminator is a break, and so is any other. -/
theorem last (ends : Terminator mark rest) :
    ∃ front c, mark = front ++ [c] ∧ isBreak c = true := by
  cases ends with
  | feed => exact ⟨[], '\n', rfl, rfl⟩
  | pair => exact ⟨['\r'], '\n', rfl, rfl⟩
  | lone => exact ⟨[], '\r', rfl, rfl⟩

/-- A terminator begins with a break. -/
theorem first (ends : Terminator mark rest) (tail : List Char) :
    ∃ c others, mark ++ tail = c :: others ∧ isBreak c = true := by
  cases ends with
  | feed => exact ⟨'\n', tail, rfl, rfl⟩
  | pair => exact ⟨'\r', '\n' :: tail, rfl, rfl⟩
  | lone => exact ⟨'\r', tail, rfl, rfl⟩

/-- A break comes next where a terminator does. -/
theorem peek {c after : Cursor} (ends : Terminator mark after.rest)
    (passed : c.Passes mark after) : ∃ ch, c.peek = some ch ∧ isBreak ch = true := by
  obtain ⟨ch, others, split, breaks⟩ := ends.first after.rest
  refine ⟨ch, ?_, breaks⟩
  unfold Cursor.peek
  rw [passed.rest, split]
  rfl

/-- Nothing of the line is left in front of a terminator. -/
theorem lineOf_append (ends : Terminator mark rest) (tail : List Char) :
    lineOf (mark ++ tail) = [] := by
  obtain ⟨c, others, split, breaks⟩ := ends.first tail
  rw [split, lineOf_break breaks]

/-- Where a line ends is decided by the text. -/
theorem unique {otherMark other : List Char} (ends : Terminator mark rest)
    (otherEnds : Terminator otherMark other) (same : mark ++ rest = otherMark ++ other) :
    rest = other := by
  -- Terminators that differ begin with different breaks, or a pair would be cut in half.
  cases ends with
  | feed => cases otherEnds <;> simp_all
  | lone => cases otherEnds <;> simp_all
  | pair =>
    cases otherEnds with
    | feed => simp at same
    | pair => simpa using same
    -- A lone carriage return does not stand in front of the line feed of a pair.
    | lone apart =>
      simp only [List.cons_append, List.nil_append, List.cons.injEq, true_and] at same
      exact absurd (by rw [← same]; rfl) apart

end Terminator

/-- What is kept by the characters of a line and by terminators holds of every text. -/
@[elab_as_elim]
theorem lines_induction {P : List Char → Prop} (nil : P [])
    (char : ∀ c rest, isBreak c = false → P rest → P (c :: rest))
    (line : ∀ mark rest, Terminator mark rest → P rest → P (mark ++ rest)) (text : List Char) :
    P text := by
  -- A carriage return may take the line feed behind it along, so the tail has to be known as well.
  suffices both : P text ∧ P text.tail from both.1
  induction text with
  | nil => exact ⟨nil, nil⟩
  | cons c rest ih =>
    refine ⟨?_, ih.1⟩
    cases breaks : isBreak c with
    | false => exact char c rest breaks ih.1
    | true =>
      -- A line feed ends the line by itself, a carriage return alone or with the line feed behind
      -- it.
      rcases break_cases breaks with rfl | rfl
      · exact line ['\n'] rest (.feed rest) ih.1
      · by_cases apart : rest.head? = some '\n'
        · obtain ⟨others, rfl⟩ := List.head?_eq_some_iff.mp apart
          exact line ['\r', '\n'] others (.pair others) ih.2
        · exact line ['\r'] rest (.lone apart) ih.1

/-- A character ends a line if it is a break, unless it is the first half of a pair. -/
theorem terminatorEnds_cons (offset : Nat) (c : Char) (rest : List Char) :
    terminatorEnds offset (c :: rest) =
      if isBreak c = true ∧ ¬ (c = '\r' ∧ rest.head? = some '\n') then
        (offset + c.utf8Size) :: terminatorEnds (offset + c.utf8Size) rest
      else terminatorEnds (offset + c.utf8Size) rest := by
  by_cases pair : c = '\r' ∧ rest.head? = some '\n'
  · -- The second half ends where the pair does.
    obtain ⟨rfl, second⟩ := pair
    obtain ⟨others, rfl⟩ := List.head?_eq_some_iff.mp second
    rw [if_neg (by simp)]
    rfl
  · rw [terminatorEnds]
    · by_cases breaks : isBreak c = true
      · simp [breaks, pair]
      · simp [breaks]
    · intro others same split
      exact pair ⟨same, by simp [split]⟩

/-- A terminator ends one line more than the text behind it. -/
theorem Terminator.terminatorEnds_append {mark rest : List Char} (ends : Terminator mark rest)
    (offset : Nat) :
    ∃ after, terminatorEnds offset (mark ++ rest) = after :: terminatorEnds after rest := by
  -- The three terminators are a feed, a return in front of a feed, and a return by itself.
  cases ends with
  | feed => exact ⟨_, rfl⟩
  | pair => exact ⟨_, rfl⟩
  | lone apart =>
    refine ⟨offset + '\r'.utf8Size, ?_⟩
    rw [List.singleton_append, terminatorEnds_cons, if_pos ⟨rfl, fun pair => apart pair.2⟩]

namespace SameLines

variable {n m : Nat} {text other : List Char}

/-- A larger bound holds as well. -/
theorem mono (same : SameLines n text other) (le : n ≤ m) : SameLines m text other := by
  -- By induction on the lines: the larger bound exceeds what is left by as much all the way.
  induction same generalizing m with
  | done => exact .done
  | char inside _ ih =>
    obtain ⟨m, rfl⟩ := Nat.exists_eq_add_of_lt (Nat.lt_of_lt_of_le (Nat.lt_succ_self _) le)
    exact .char inside (ih (by omega))
  | line ends otherEnds _ ih =>
    obtain ⟨m, rfl⟩ := Nat.exists_eq_add_of_lt (Nat.lt_of_lt_of_le (Nat.lt_succ_self _) le)
    exact .line ends otherEnds (ih (by omega))

/-- Every text has the same lines as itself. -/
theorem refl (text : List Char) : SameLines text.length text text := by
  -- By induction over characters and terminators, which are what both texts share.
  induction text using lines_induction with
  | nil => exact .done
  | char _ _ inside ih => exact .char inside ih
  | line _ _ ends ih =>
    -- A terminator of two characters counts as one.
    have same := SameLines.line ends ends ih
    obtain ⟨front, c, rfl, _⟩ := ends.last
    exact same.mono (by simp)

/-- Behind its first character a text has no more lines than before it. -/
theorem tail (same : SameLines n text other) (equal : text = other) :
    SameLines n text.tail other.tail := by
  cases same with
  | done => exact .done
  | char _ same => exact same.mono (Nat.le_succ _)
  | line ends otherEnds same =>
    obtain rfl := ends.unique otherEnds equal
    obtain rfl := List.append_cancel_right equal
    cases ends with
    | feed => exact same.mono (Nat.le_succ _)
    | lone => exact same.mono (Nat.le_succ _)
    -- The second half of a pair is a terminator of its own.
    | pair => exact .line (.feed _) (.feed _) same

/-- The lines that are left begin alike. -/
theorem lineOf_eq (same : SameLines n text other) : lineOf other = lineOf text := by
  induction same with
  | done => rfl
  | char inside _ ih => rw [lineOf_cons inside, lineOf_cons inside, ih]
  -- Where a line ends nothing of it is left on either side.
  | line ends otherEnds _ _ => rw [ends.lineOf_append, otherEnds.lineOf_append]

/-- As many lines end, wherever the texts begin. -/
theorem length_terminatorEnds (same : SameLines n text other) (offset otherOffset : Nat) :
    (terminatorEnds otherOffset other).length = (terminatorEnds offset text).length := by
  -- By induction on the lines the texts have in common.
  induction same generalizing offset otherOffset with
  | done => rfl
  -- Only terminators end lines, so the bytes of a character do not matter.
  | char inside _ ih =>
    simp only [terminatorEnds_cons, inside, Bool.false_eq_true, false_and, if_false]
    exact ih _ _
  | line ends otherEnds _ ih =>
    obtain ⟨after, here⟩ := ends.terminatorEnds_append offset
    obtain ⟨otherAfter, there⟩ := otherEnds.terminatorEnds_append otherOffset
    rw [here, there, List.length_cons, List.length_cons, ih]

end SameLines

/-- The line of an offset counts the lines of the text that do not end behind the offset. -/
theorem lineFor_append (front rest : List Char) :
    (LineIndex.ofText (front ++ rest)).lineFor (byteLength front) +
        (terminatorEnds 0 rest).length =
      1 + (terminatorEnds 0 (front ++ rest)).length := by
  -- Whatever ends behind the offset ends in the rest.
  have behind : ∀ (front : List Char) (offset : Nat),
      (terminatorEnds offset (front ++ rest)).countP (· ≤ offset + byteLength front) +
          (terminatorEnds (offset + byteLength front) rest).length =
        (terminatorEnds offset (front ++ rest)).length := by
    intro front
    -- By induction on the front, with the offset moving along.
    induction front with
    | nil =>
      intro offset
      -- No terminator of the rest ends where the rest begins.
      have earlier : (terminatorEnds offset rest).countP (· ≤ offset + byteLength []) = 0 := by
        rw [List.countP_eq_zero]
        intro stop member
        have later := lt_terminatorEnds stop member
        exact fun ended => absurd (of_decide_eq_true ended) (Nat.not_le.mpr later)
      rw [List.nil_append, earlier, Nat.zero_add, byteLength_nil, Nat.add_zero]
    | cons c others ih =>
      intro offset
      have later := ih (offset + c.utf8Size)
      rw [Nat.add_assoc] at later
      rw [List.cons_append, terminatorEnds_cons, byteLength_cons]
      split
      · -- The terminator ends no later than the front.
        rw [List.countP_cons_of_pos (by simp), List.length_cons]
        omega
      · exact later
  have whole := behind front 0
  rw [lineFor_ofText]
  rw [Nat.zero_add] at whole
  -- How many end does not depend on the offset the rest is counted from.
  have same := (SameLines.refl rest).length_terminatorEnds (byteLength front) 0
  omega

end SpecTrace
