import SpecTrace.Document.Node
import SpecTrace.Proofs.Text.Passing
import SpecTrace.Text.LineIndex

/-! The line of an offset is one more than the number of line terminators that end at or before
it, and lines start at the front and behind each terminator. -/

namespace SpecTrace

/-- Every terminator ends behind the offset at which the text begins. -/
theorem lt_terminatorEnds {offset : Nat} {text : List Char} :
    ∀ stop ∈ terminatorEnds offset text, offset < stop := by
  -- Every character takes at least one byte, so offsets grow along the text.
  induction offset, text using terminatorEnds.induct with
  | case1 => simp [terminatorEnds]
  | case2 offset rest ih =>
    intro stop member
    rw [terminatorEnds] at member
    rcases List.mem_cons.mp member with rfl | later
    · omega
    · have := ih stop later
      omega
  | case3 offset c rest other after terminates ih =>
    intro stop member
    have size := c.utf8Size_pos
    rw [terminatorEnds] at member
    · simp only [terminates, if_true] at member
      rcases List.mem_cons.mp member with rfl | later
      · omega
      · have := ih stop later
        omega
    · exact other
  | case4 offset c rest other after terminates ih =>
    intro stop member
    have size := c.utf8Size_pos
    rw [terminatorEnds] at member
    · simp only [terminates, Bool.false_eq_true, if_false] at member
      have := ih stop member
      omega
    · exact other

/-- Terminators end in the order in which they stand. -/
theorem terminatorEnds_ordered {offset : Nat} {text : List Char} :
    (terminatorEnds offset text).Pairwise (· < ·) := by
  -- Those of the rest of the text end behind the offset at which the rest begins.
  induction offset, text using terminatorEnds.induct with
  | case1 => simp [terminatorEnds]
  | case2 offset rest ih =>
    rw [terminatorEnds]
    exact List.pairwise_cons.mpr ⟨lt_terminatorEnds, ih⟩
  | case3 offset c rest other after terminates ih =>
    rw [terminatorEnds]
    · simp only [terminates, if_true]
      exact List.pairwise_cons.mpr ⟨lt_terminatorEnds, ih⟩
    · exact other
  | case4 offset c rest other after terminates ih =>
    rw [terminatorEnds]
    · simp only [terminates, Bool.false_eq_true, if_false]
      exact ih
    · exact other

/-- Of numbers in order, those up to a bound come first. -/
theorem length_takeWhile_le {numbers : List Nat} (ordered : numbers.Pairwise (· < ·))
    (bound : Nat) : (numbers.takeWhile (· ≤ bound)).length = numbers.countP (· ≤ bound) := by
  induction numbers with
  | nil => rfl
  | cons first rest ih =>
    obtain ⟨less, later⟩ := List.pairwise_cons.mp ordered
    by_cases within : first ≤ bound
    · simp [within, ih later]
    · -- All others are larger, so none is up to the bound.
      have none : rest.countP (· ≤ bound) = 0 := by
        rw [List.countP_eq_zero]
        intro number member
        have := less number member
        simp only [decide_eq_true_eq]
        omega
      simp [within, none]

/-- Lines that are numbered from one on are counted by the number of the last. -/
theorem last_numbered (starts : List Nat) (bound first : Nat) :
    (match (((starts.zipIdx first).map fun (start, i) => (i + 1, start)).takeWhile
        fun line => line.2 ≤ bound).getLast? with
      | some line => line.1
      | none => first) = first + (starts.takeWhile (· ≤ bound)).length := by
  -- The first number is general, since the rest is numbered from the next one on.
  induction starts generalizing first with
  | nil => rfl
  | cons start rest ih =>
    by_cases within : start ≤ bound
    · -- The first line is the last one, unless more follow.
      have later := ih (first + 1)
      simp only [List.zipIdx_cons, List.map_cons, List.takeWhile_cons, within, decide_true, if_true,
        List.getLast?_cons, List.length_cons]
      cases last : (((rest.zipIdx (first + 1)).map fun (start, i) => (i + 1, start)).takeWhile
          fun line => line.2 ≤ bound).getLast? with
      | none =>
        rw [last] at later
        dsimp only at later
        simp only [Option.getD_none]
        omega
      | some line =>
        rw [last] at later
        dsimp only at later
        simp only [Option.getD_some]
        omega
    · simp [within]

/-- The line of an offset is one more than the number of terminators that end at or before it. -/
theorem lineFor_ofText (text : List Char) (offset : Nat) :
    (LineIndex.ofText text).lineFor offset =
      1 + (terminatorEnds 0 text).countP (· ≤ offset) := by
  -- A line begins at the front and behind each terminator.
  have numbered : (LineIndex.ofText text).lines =
      ((0 :: terminatorEnds 0 text).zipIdx 0).map fun (start, i) => (i + 1, start) := by
    rw [LineIndex.ofText, List.mapIdx_eq_zipIdx_map]
  have counted := last_numbered (0 :: terminatorEnds 0 text) offset 0
  rw [← numbered] at counted
  refine Eq.trans ?_ (counted.trans ?_)
  · rfl
  · -- The first line begins at the very front.
    rw [List.takeWhile_cons]
    simp only [Nat.zero_le, decide_true, if_true, List.length_cons,
      length_takeWhile_le terminatorEnds_ordered]
    omega

/-! ### Line terminators by their surroundings -/

/-- A line terminator between what stands before it and what stands behind it: a carriage return
with a line feed, or one of the two without the other one beside it. -/
inductive Terminates (front back : List Char) : List Char → Prop where
  | both : Terminates front back ['\r', '\n']
  | feed (alone : front.getLast? ≠ some '\r') : Terminates front back ['\n']
  | carriage (alone : back.head? ≠ some '\n') : Terminates front back ['\r']

/-- A part of a text is a line terminator. -/
def IsTerminator (text : List Char) (span : Span) : Prop :=
  ∃ front mark back, text = front ++ mark ++ back ∧ Terminates front back mark ∧
    span = ⟨byteLength front, byteLength (front ++ mark)⟩

/-- The line terminators of a text that begins at the given offset. -/
def terminators : Nat → List Char → List Span
  | _, [] => []
  | offset, '\r' :: '\n' :: rest => ⟨offset, offset + 2⟩ :: terminators (offset + 2) rest
  | offset, c :: rest =>
    if isBreak c then ⟨offset, offset + c.utf8Size⟩ :: terminators (offset + c.utf8Size) rest
    else terminators (offset + c.utf8Size) rest

/-- The ends that lines are numbered by are those of the terminators. -/
theorem map_stop_terminators (offset : Nat) (text : List Char) :
    (terminators offset text).map Span.stop = terminatorEnds offset text := by
  -- Both lists are made by the same scan, character by character.
  induction offset, text using terminators.induct with
  | case1 => rfl
  | case2 offset rest ih => rw [terminators, terminatorEnds, List.map_cons, ih]
  | case3 offset c rest other terminates ih | case4 offset c rest other terminates ih =>
    rw [terminators, terminatorEnds]
    · simp [terminates, ih]
    · exact other
    · exact other

/-- The span of a mark behind a text. -/
def spanBehind (front mark : List Char) : Span :=
  ⟨byteLength front, byteLength (front ++ mark)⟩

/-- A part of a text that stands behind another one is a line terminator of both together. -/
def IsTerminatorBehind (before text : List Char) (span : Span) : Prop :=
  ∃ front mark back, text = front ++ mark ++ back ∧ Terminates (before ++ front) back mark ∧
    span = spanBehind (before ++ front) mark

/-- A terminator stands at the front of a text, or behind its first character. -/
theorem isTerminatorBehind_cons {before rest : List Char} {c : Char} {span : Span} :
    IsTerminatorBehind before (c :: rest) span ↔
      (∃ mark back, c :: rest = mark ++ back ∧ Terminates before back mark ∧
        span = spanBehind before mark) ∨ IsTerminatorBehind (before ++ [c]) rest span := by
  constructor
  · -- What stands in front of the mark is empty, or begins with the first character.
    rintro ⟨front, mark, back, split, terminates, rfl⟩
    cases front with
    | nil =>
      rw [List.append_nil] at terminates ⊢
      exact .inl ⟨mark, back, split, terminates, rfl⟩
    | cons first front =>
      obtain ⟨rfl, behind⟩ := List.cons.inj split
      refine .inr ⟨front, mark, back, behind, ?_, ?_⟩
      · rwa [List.append_assoc, List.singleton_append]
      · rw [List.append_assoc, List.singleton_append]
  · -- A mark behind the first character has that character in front of it as well.
    rintro (⟨mark, back, split, terminates, rfl⟩ | ⟨front, mark, back, rfl, terminates, rfl⟩)
    · refine ⟨[], mark, back, split, ?_, ?_⟩
      · rwa [List.append_nil]
      · rw [List.append_nil]
    · rw [List.append_assoc, List.singleton_append] at terminates
      refine ⟨c :: front, mark, back, rfl, terminates, ?_⟩
      rw [List.append_assoc, List.singleton_append]

/-- At the front of a text, a carriage return and a line feed are one terminator. -/
theorem pair_at_front {before rest : List Char} {span : Span} :
    (∃ mark back, '\r' :: '\n' :: rest = mark ++ back ∧ Terminates before back mark ∧
      span = spanBehind before mark) ↔ span = spanBehind before ['\r', '\n'] := by
  constructor
  · rintro ⟨mark, back, split, terminates, rfl⟩
    -- A lone carriage return would have no line feed behind it.
    cases terminates with
    | both => rfl
    | feed alone => simp at split
    | carriage alone =>
      obtain ⟨_, rfl⟩ := List.cons.inj split
      exact absurd rfl alone
  · rintro rfl
    exact ⟨_, rest, rfl, .both, rfl⟩

/-- At the front of a text, any other carriage return or line feed is a terminator of its own, but
for the line feed behind a carriage return. -/
theorem break_at_front {before rest : List Char} {c : Char} {span : Span}
    (alone : c = '\r' → rest.head? ≠ some '\n') :
    (∃ mark back, c :: rest = mark ++ back ∧ Terminates before back mark ∧
      span = spanBehind before mark) ↔
      isBreak c = true ∧ ¬ (c = '\n' ∧ before.getLast? = some '\r') ∧
        span = spanBehind before [c] := by
  constructor
  · rintro ⟨mark, back, split, terminates, rfl⟩
    obtain ⟨first, marks, rfl⟩ : ∃ first marks, mark = first :: marks := by cases terminates <;> simp
    obtain ⟨rfl, behind⟩ := List.cons.inj split
    -- The mark has its first character only, as the pair is ruled out.
    cases terminates with
    | both => exact absurd (by rw [behind]; rfl) (alone rfl)
    | feed free => exact ⟨rfl, fun other => free other.2, rfl⟩
    | carriage free => exact ⟨rfl, by simp, rfl⟩
  · rintro ⟨terminates, apart, rfl⟩
    refine ⟨[c], rest, rfl, ?_, rfl⟩
    obtain rfl | rfl : c = '\n' ∨ c = '\r' := by simpa [isBreak] using terminates
    · exact .feed fun behind => apart ⟨rfl, behind⟩
    · exact .carriage (alone rfl)

/-- The terminators of a text are listed, if a line feed at its front is not that of a carriage
return before it. -/
theorem mem_terminators {before text : List Char} {span : Span}
    (apart : before.getLast? = some '\r' → text.head? ≠ some '\n') :
    span ∈ terminators (byteLength before) text ↔ IsTerminatorBehind before text span := by
  -- The induction follows the scan; what it has passed is behind `before` in the next step.
  generalize start : byteLength before = offset
  induction offset, text using terminators.induct generalizing before with
  | case1 offset =>
    refine iff_of_false List.not_mem_nil ?_
    rintro ⟨front, mark, back, split, terminates, _⟩
    cases terminates <;> simp at split
  | case2 offset rest ih =>
    have further := @ih (before ++ ['\r', '\n']) (by simp) (by
      rw [byteLength_append, start]
      rfl)
    -- No terminator begins between the two characters.
    have between : ¬ ∃ mark back, '\n' :: rest = mark ++ back ∧ Terminates (before ++ ['\r']) back mark ∧
        span = spanBehind (before ++ ['\r']) mark := by
      rw [break_at_front (by simp)]
      simp
    have here : spanBehind before ['\r', '\n'] = ⟨offset, offset + 2⟩ := by
      rw [spanBehind, byteLength_append, start]
      rfl
    rw [terminators, List.mem_cons, further, isTerminatorBehind_cons, isTerminatorBehind_cons,
      pair_at_front, or_iff_right between, here, List.append_assoc, List.singleton_append]
  | case3 offset c rest other terminates ih | case4 offset c rest other terminates ih =>
    have alone : c = '\r' → rest.head? ≠ some '\n' := by
      intro carriage feed
      obtain ⟨behind, split⟩ := List.head?_eq_some_iff.mp feed
      exact other behind carriage split
    have further := @ih (before ++ [c]) (by simpa using alone) (by simp [start])
    have free : ¬ (c = '\n' ∧ before.getLast? = some '\r') :=
      fun ⟨feed, carriage⟩ => apart carriage (by rw [feed]; rfl)
    have here : spanBehind before [c] = ⟨offset, offset + c.utf8Size⟩ := by simp [spanBehind, start]
    rw [terminators, isTerminatorBehind_cons, break_at_front alone, ← further, here]
    · simp [terminates, free]
    · exact other

/-- The terminators that are listed are those of the text. -/
theorem mem_terminators_iff {text : List Char} {span : Span} :
    span ∈ terminators 0 text ↔ IsTerminator text span :=
  @mem_terminators [] text span (by simp)

/-- Lines are numbered from one on. -/
theorem map_fst_lines (text : List Char) :
    (LineIndex.ofText text).lines.map Prod.fst = List.range' 1 (LineIndex.ofText text).lineCount := by
  -- The numbers are compared place by place.
  apply List.ext_getElem
  · simp [LineIndex.lineCount]
  · intro i _ _
    simp only [LineIndex.ofText, List.getElem_map, List.getElem_mapIdx, List.getElem_range']
    omega

/-- Lines start at the front and at the end of each terminator. -/
theorem map_snd_lines (text : List Char) :
    (LineIndex.ofText text).lines.map Prod.snd = 0 :: (terminators 0 text).map Span.stop := by
  rw [map_stop_terminators]
  -- Only the numbers are dropped, so the starts agree place by place.
  apply List.ext_getElem
  · simp [LineIndex.ofText]
  · intro i _ _
    simp only [LineIndex.ofText, List.getElem_map, List.getElem_mapIdx]

/-- The index of a text numbers its lines from one on. They start, in order, at the front and at
the end of each line terminator, and the line of an offset is one more than the number of
terminators that end at or before it. -/
theorem line_index_is_exact (text : String) :
    ∃ listed : List Span, listed.Nodup ∧ (∀ span, span ∈ listed ↔ IsTerminator text.toList span) ∧
      let index := LineIndex.ofText text.toList
      index.lines.map Prod.fst = List.range' 1 index.lineCount ∧
        (index.lines.map Prod.snd).Pairwise (· < ·) ∧
        (∀ start, start ∈ index.lines.map Prod.snd ↔
          start = 0 ∨ ∃ span ∈ listed, span.stop = start) ∧
        (∀ offset, index.lineFor offset = 1 + listed.countP fun span => span.stop ≤ offset) ∧
        (∀ offset, 0 < index.lineFor offset) ∧
        ∀ earlier later, earlier ≤ later → index.lineFor earlier ≤ index.lineFor later := by
  -- The ends of the terminators are in order, which makes starts strictly increase.
  have ordered : ((terminators 0 text.toList).map Span.stop).Pairwise (· < ·) := by
    rw [map_stop_terminators]
    exact terminatorEnds_ordered
  -- The line of an offset counts the ends up to it, one for each terminator.
  have counted : ∀ offset, (LineIndex.ofText text.toList).lineFor offset =
      1 + (terminators 0 text.toList).countP fun span => span.stop ≤ offset := by
    intro offset
    rw [lineFor_ofText, ← map_stop_terminators, List.countP_map]
    rfl
  refine ⟨terminators 0 text.toList, ?_, fun span => mem_terminators_iff, map_fst_lines _, ?_, ?_,
    counted, ?_, ?_⟩
  · -- Terminators that end apart are different ones.
    refine (List.pairwise_map.mp ordered).imp fun less same => ?_
    rw [same] at less
    exact Nat.lt_irrefl _ less
  · -- The first line starts at zero, in front of the end of every terminator.
    rw [map_snd_lines]
    refine List.pairwise_cons.mpr ⟨fun stop member => ?_, ordered⟩
    rw [map_stop_terminators] at member
    exact lt_terminatorEnds stop member
  · intro start
    rw [map_snd_lines, List.mem_cons, List.mem_map]
  · intro offset
    rw [counted]
    omega
  · -- A terminator that ends by the earlier offset ends by the later one as well.
    intro earlier later le
    rw [counted, counted]
    refine Nat.add_le_add_left (List.countP_mono_left fun span _ within => ?_) 1
    simp only [decide_eq_true_eq] at within ⊢
    omega

/-- A carriage return takes along the line feed behind it, and not the one before it. -/
example : (LineIndex.ofText "\n\r\n\r".toList).lines = [(1, 0), (2, 1), (3, 3), (4, 4)] := by decide

end SpecTrace
