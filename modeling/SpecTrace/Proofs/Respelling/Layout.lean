import SpecTrace.Document.JsonText
import SpecTrace.Proofs.Respelling.Positions
import SpecTrace.Yaml.Layout

/-! What stands between the nodes is passed alike in two spellings of a text. -/

namespace SpecTrace

/-- A run that no break belongs to is a run of the line. -/
theorem takeWhile_lineOf {p : Char → Bool} (stops : ∀ ch, isBreak ch = true → p ch = false)
    (text : List Char) : (lineOf text).takeWhile p = text.takeWhile p := by
  -- By induction on the text: the run and the line are told character by character.
  induction text with
  | nil => rfl
  | cons ch rest ih =>
    cases breaks : isBreak ch with
    | true => rw [lineOf_break breaks, List.takeWhile_cons, stops ch breaks]; rfl
    | false => rw [lineOf_cons breaks, List.takeWhile_cons, List.takeWhile_cons, ih]

/-- A word without a break begins a text exactly if it begins the line. -/
theorem isPrefixOf_lineOf {word : List Char} (line : ∀ ch ∈ word, isBreak ch = false)
    (text : List Char) : word.isPrefixOf (lineOf text) = word.isPrefixOf text := by
  -- By induction on the word, as long as the line goes on with it.
  induction word generalizing text with
  | nil => simp
  | cons ch rest ih =>
    obtain ⟨inside, others⟩ := List.forall_mem_cons.mp line
    cases text with
    | nil => rfl
    | cons first tail =>
      cases breaks : isBreak first with
      | false => rw [lineOf_cons breaks, List.isPrefixOf, List.isPrefixOf, ih others]
      | true =>
        -- The word goes on where the line has ended.
        have other : (ch == first) = false :=
          beq_eq_false_iff_ne.mpr (ne_of_break breaks inside).symm
        rw [lineOf_break breaks]
        simp [List.isPrefixOf, other]

/-- A terminator that comes next is skipped as a whole. -/
theorem Cursor.skipBreak?_of_terminator {mark : List Char} {c after : Cursor}
    (ends : Terminator mark after.rest) (passed : c.Passes mark after) :
    c.skipBreak? = some after := by
  have there := passed.rest
  rw [passed.moved]
  unfold skipBreak? startsWith atBreak peek
  cases ends with
  | feed => simp [there, isBreak, Cursor.advance]
  | pair => simp [there]
  | lone apart =>
    -- No line feed follows, so this is not the first half of a pair.
    have single : ['\r', '\n'].isPrefixOf c.rest = false := by
      rw [there]
      cases rest : after.rest with
      | nil => rfl
      | cons ch others =>
        have other : ('\n' == ch) = false := by
          rw [beq_eq_false_iff_ne]
          rintro rfl
          exact apart (by rw [rest]; rfl)
        simp [List.isPrefixOf, other]
    rw [single]
    simp [there, isBreak, Cursor.advance]

/-- In front of a character of the line there is no break to skip. -/
theorem Cursor.skipBreak?_of_char {ch : Char} {c : Cursor} (inside : isBreak ch = false)
    (there : c.peek = some ch) : c.skipBreak? = none := by
  have other : c.startsWith ['\r', '\n'] = false := by
    unfold Cursor.startsWith
    unfold Cursor.peek at there
    obtain ⟨rest, same⟩ := List.head?_eq_some_iff.mp there
    -- A pair begins with a carriage return, and this character is none.
    rw [same, List.isPrefixOf]
    have different : ('\r' == ch) = false := by
      rw [beq_eq_false_iff_ne]
      rintro rfl
      cases inside
    rw [different, Bool.false_and]
  unfold skipBreak? atBreak
  simp [other, there, inside]

/-- At the end there is no break to skip. -/
theorem Cursor.skipBreak?_of_end {c : Cursor} (ended : c.rest = []) : c.skipBreak? = none := by
  simp [skipBreak?, startsWith, atBreak, peek, ended]

/-- The second character comes next behind the first. -/
theorem Cursor.peekSecond_eq (c : Cursor) : c.peekSecond = c.next.peek := by
  rw [peekSecond, peek, rest_next]

/-- A character that comes next is the first of the rest. -/
theorem Cursor.rest_of_peek {ch : Char} {c : Cursor} (there : c.peek = some ch) :
    c.rest = ch :: c.next.rest := by
  unfold Cursor.peek at there
  obtain ⟨rest, same⟩ := List.head?_eq_some_iff.mp there
  rw [Cursor.rest_next, same]
  rfl

namespace Respelling.Alike

variable {way : Respelling} {aligned : Prop} {n : Nat} {c d : Cursor}

/-- The same comes next on both sides, or a break each. -/
theorem peek_cases (alike : way.Alike aligned n c d) :
    d.peek = c.peek ∨ ∃ ch other, isBreak ch = true ∧ isBreak other = true ∧
      c.peek = some ch ∧ d.peek = some other := by
  -- What two texts face is their ends, one character, or a terminator each.
  unfold Cursor.peek
  cases alike.facing with
  | stop left right => exact .inl (by rw [left, right])
  | char _ left right _ => exact .inl (right.trans left.symm)
  | line ends otherEnds left right _ =>
    obtain ⟨ch, rest, split, breaks⟩ := ends.first _
    obtain ⟨other, otherRest, otherSplit, otherBreaks⟩ := otherEnds.first _
    refine .inr ⟨ch, other, breaks, otherBreaks, ?_, ?_⟩
    · rw [left.rest, split]; rfl
    · rw [right.rest, otherSplit]; rfl

/-- What does not tell breaks apart is the same of what comes next. -/
theorem peek_test (alike : way.Alike aligned n c d) {α : Type} (f : Option Char → α)
    (breaks : ∀ ch other, isBreak ch = true → isBreak other = true →
      f (some ch) = f (some other)) : f d.peek = f c.peek := by
  rcases alike.peek_cases with same | ⟨ch, other, here, there, left, right⟩
  · rw [same]
  · rw [left, right]
    exact breaks other ch there here

/-- Both texts end in the same place. -/
theorem atEnd (alike : way.Alike aligned n c d) : d.atEnd = c.atEnd := by
  have ended : ∀ e : Cursor, e.atEnd = e.peek.isNone := by
    intro e
    unfold Cursor.atEnd Cursor.peek
    cases e.rest <;> rfl
  rw [ended, ended]
  exact alike.peek_test Option.isNone fun _ _ _ _ => rfl

/-- A break comes next in both texts or in neither. -/
theorem atBreak (alike : way.Alike aligned n c d) : d.atBreak = c.atBreak :=
  alike.peek_test (Option.any isBreak) fun _ _ here there => by simp [here, there]

/-- A blank comes next in both texts or in neither. -/
theorem isBlank_peek (alike : way.Alike aligned n c d) : isBlank d.peek = isBlank c.peek :=
  alike.peek_test isBlank fun _ _ here there => by simp [isBlank, here, there]

/-- A character of the line comes next in both texts or in neither. -/
theorem peek_iff (alike : way.Alike aligned n c d) {x : Char} (inside : isBreak x = false) :
    d.peek = some x ↔ c.peek = some x := by
  refine Iff.of_eq (alike.peek_test (· = some x) ?_)
  intro first other here there
  -- A break is never the character that is asked for.
  have ne : ∀ first, isBreak first = true → (some first = some x) = False := fun first breaks =>
    eq_false fun same => ne_of_break breaks inside (Option.some.inj same)
  rw [ne first here, ne other there]

/-- Behind a character of the line, positions stay alike and have one character less. -/
theorem next {x : Char} (alike : way.Alike aligned (n + 1) c d) (inside : isBreak x = false)
    (there : c.peek = some x) : way.Alike aligned n c.next d.next := by
  cases alike.facing with
  | stop left _ => simp [Cursor.peek, left] at there
  | char _ _ _ further => exact further
  -- A line that ends here would begin its mark with the character.
  | line ends _ left _ _ =>
    obtain ⟨first, _, split, breaks⟩ := ends.first _
    unfold Cursor.peek at there
    rw [left.rest, split] at there
    simp only [List.head?_cons, Option.some.injEq] at there
    exact absurd there (ne_of_break breaks inside)

/-- Where something comes next, there is room for a character. -/
theorem room_pos {ch : Char} (alike : way.Alike aligned n c d) (there : c.peek = some ch) :
    ∃ m, n = m + 1 := by
  cases alike.facing with
  | stop left _ => simp [Cursor.peek, left] at there
  | char => exact ⟨_, rfl⟩
  | line => exact ⟨_, rfl⟩

/-- A character that may come next is passed abreast. -/
theorem step_abreast {x : Char} (alike : way.Alike aligned n c d) (inside : isBreak x = false)
    (there : c.peek = some x) : Abreast c d c.next d.next :=
  .next inside there ((alike.peek_iff inside).mpr there)

/-! ### Moving along a line -/

/-- The same of the line is left on both sides. -/
theorem lineOf_eq (alike : way.Alike aligned n c d) : lineOf d.rest = lineOf c.rest :=
  alike.lines.lineOf_eq

/-- A number of characters of the line are passed abreast. -/
theorem advance (alike : way.Alike aligned n c d) {count : Nat}
    (within : count ≤ (lineOf c.rest).length) :
    Abreast c d (c.advance count) (d.advance count) := by
  -- Wherever this line is left, these characters are the next ones.
  have passed : ∀ e : Cursor, lineOf e.rest = lineOf c.rest →
      e.Passes ((lineOf c.rest).take count) (e.advance count) := by
    intro e line
    -- The line is the first part of the rest, and these characters the first part of the line.
    have split : e.rest = (lineOf c.rest).take count ++
        ((lineOf c.rest).drop count ++ e.rest.dropWhile fun ch => !isBreak ch) := by
      rw [← List.append_assoc, List.take_append_drop, ← line]
      exact List.takeWhile_append_dropWhile.symm
    have moved := Cursor.Passes.of_rest split
    rwa [List.length_take, Nat.min_eq_left within] at moved
  exact ⟨_, fun ch member => unbroken_lineOf ch (List.mem_of_mem_take member), passed c rfl,
    passed d alike.lineOf_eq⟩

/-- A run that no break belongs to is the same on both sides. -/
theorem takeWhile_eq (alike : way.Alike aligned n c d) {p : Char → Bool}
    (stops : ∀ ch, isBreak ch = true → p ch = false) :
    d.rest.takeWhile p = c.rest.takeWhile p := by
  rw [← takeWhile_lineOf stops, alike.lineOf_eq, takeWhile_lineOf stops]

/-- A run that no break belongs to is skipped abreast. -/
theorem skipWhile (alike : way.Alike aligned n c d) {p : Char → Bool}
    (stops : ∀ ch, isBreak ch = true → p ch = false) :
    Abreast c d (c.skipWhile p) (d.skipWhile p) := by
  -- Up to the next break both texts are the same, and the run ends before it.
  unfold Cursor.skipWhile
  rw [alike.takeWhile_eq stops]
  refine alike.advance ?_
  rw [← takeWhile_lineOf stops]
  exact (List.takeWhile_prefix p).length_le

/-- Spaces and tabs are skipped abreast. -/
theorem skipInlineSpace (alike : way.Alike aligned n c d) :
    Abreast c d c.skipInlineSpace d.skipInlineSpace := by
  refine alike.skipWhile fun ch breaks => ?_
  simp only [isBreak, Bool.or_eq_true, decide_eq_true_eq] at breaks
  rcases breaks with rfl | rfl <;> rfl

/-- The rest of the line is skipped abreast. -/
theorem skipLine (alike : way.Alike aligned n c d) : Abreast c d c.skipLine d.skipLine :=
  alike.skipWhile fun ch breaks => by simp [breaks]

/-- Both texts go on with a word or neither does. -/
theorem startsWith (alike : way.Alike aligned n c d) {word : List Char}
    (line : ∀ ch ∈ word, isBreak ch = false) : d.startsWith word = c.startsWith word := by
  unfold Cursor.startsWith
  rw [← isPrefixOf_lineOf line, alike.lineOf_eq, isPrefixOf_lineOf line]

/-- A word that both texts go on with is passed abreast. -/
theorem word (alike : way.Alike aligned n c d) {w : List Char}
    (line : ∀ ch ∈ w, isBreak ch = false) (there : c.startsWith w = true) :
    Abreast c d (c.advance w.length) (d.advance w.length) :=
  ⟨w, line, .of_startsWith there, .of_startsWith (alike.startsWith line ▸ there)⟩

/-- An indicator stands on both sides or on neither. -/
theorem atIndicator (alike : way.Alike aligned n c d) {x : Char} (inside : isBreak x = false) :
    d.atIndicator x = c.atIndicator x := by
  unfold Cursor.atIndicator
  by_cases there : c.peek = some x
  · -- A blank has to follow on both sides.
    obtain ⟨m, rfl⟩ := alike.room_pos there
    rw [Cursor.peekSecond_eq, Cursor.peekSecond_eq, (alike.next inside there).isBlank_peek]
    simp [there, (alike.peek_iff inside).mpr there]
  · have other : d.peek ≠ some x := mt (alike.peek_iff inside).mp there
    simp [there, other]

/-- A quote stands on both sides or on neither. -/
theorem atQuote (alike : way.Alike aligned n c d) : d.atQuote = c.atQuote := by
  unfold Cursor.atQuote
  simp only [alike.peek_iff (x := '"') rfl, alike.peek_iff (x := '\'') rfl]

/-! ### Line breaks -/

/-- A line ends on both sides, or on neither. -/
theorem skipBreak? (alike : way.Alike aligned n c d) :
    (c.skipBreak? = none ∧ d.skipBreak? = none) ∨
      ∃ m cEnd dEnd, n = m + 1 ∧ c.skipBreak? = some cEnd ∧ d.skipBreak? = some dEnd ∧
        way.Alike True m cEnd dEnd := by
  -- What two texts face is their ends, one character, or a terminator each.
  cases alike.facing with
  | stop left right =>
    exact .inl ⟨Cursor.skipBreak?_of_end left, Cursor.skipBreak?_of_end right⟩
  | char inside left right _ =>
    exact .inl ⟨Cursor.skipBreak?_of_char inside left, Cursor.skipBreak?_of_char inside right⟩
  | line ends otherEnds left right further =>
    exact .inr ⟨_, _, _, rfl, Cursor.skipBreak?_of_terminator ends left,
      Cursor.skipBreak?_of_terminator otherEnds right, further⟩

/-- Where a line ends, the next one is aligned and has less left. -/
theorem skipBreak_line {ch : Char} (alike : way.Alike aligned (n + 1) c d)
    (there : c.peek = some ch) (breaks : isBreak ch = true) :
    way.Alike True n c.skipBreak d.skipBreak := by
  unfold Cursor.skipBreak
  cases alike.facing with
  | stop left _ => simp [Cursor.peek, left] at there
  | char inside left _ _ =>
    rw [Option.some.inj (left.symm.trans there), breaks] at inside
    cases inside
  -- Terminators are skipped as a whole, whichever they are.
  | line ends otherEnds left right further =>
    rw [Cursor.skipBreak?_of_terminator ends left, Cursor.skipBreak?_of_terminator otherEnds right]
    exact further

/-- A line break is skipped, if there is one. -/
theorem skipBreak (alike : way.Alike aligned n c d) :
    way.Alike aligned n c.skipBreak d.skipBreak := by
  -- Where no break is skipped, nothing moves; behind one the two texts are alike again.
  unfold Cursor.skipBreak
  rcases alike.skipBreak? with ⟨left, right⟩ | ⟨m, _, _, rfl, left, right, further⟩
  · rw [left, right]
    exact alike
  · rw [left, right]
    exact further.loosen.within alike

end Respelling.Alike

/-! ### Layout -/

namespace Cursor

/-- Past layout that may begin inside of a comment, and whether a line break was crossed; outside of
a comment, this is `skipLayout`. -/
def layoutFrom (inComment : Bool) (c : Cursor) : Cursor × Bool :=
  let length := layoutLength inComment c.rest
  (c.advance length, (c.rest.take length).any isBreak)

/-- At the end there is no layout. -/
theorem layoutFrom_end {c : Cursor} (ended : c.rest = []) (inComment : Bool) :
    c.layoutFrom inComment = (c, false) := by
  simp [layoutFrom, ended, layoutLength, advance]

/-- On a line, a character belongs to the layout if it is blank or in a comment. -/
theorem layoutFrom_char {ch : Char} {c : Cursor} (inside : isBreak ch = false)
    (there : c.peek = some ch) (inComment : Bool) :
    c.layoutFrom inComment =
      if inComment || isInlineSpace ch then c.next.layoutFrom inComment
      else if ch = '#' then c.next.layoutFrom true
      else (c, false) := by
  -- The character is passed, begins a comment, or stops the layout.
  unfold layoutFrom
  rw [rest_of_peek there, layoutLength]
  simp only [inside, Bool.false_eq_true, if_false]
  split
  · simp [inside, advance]
  · split
    · simp [inside, advance]
    · simp [advance]

/-- The end of a line belongs to the layout. -/
theorem layoutFrom_line {mark : List Char} {c after : Cursor} (ends : Terminator mark after.rest)
    (passed : c.Passes mark after) (inComment : Bool) :
    c.layoutFrom inComment = ((after.layoutFrom false).1, true) := by
  -- A comment ends with its line, and the second half of a pair is layout as well.
  unfold layoutFrom
  rw [passed.rest, passed.moved]
  cases ends <;> simp [layoutLength, isBreak, advance]

/-- Past a line that ends, the blank lines go on. -/
theorem skipBlankLines_line {mark : List Char} {c after : Cursor}
    (ends : Terminator mark after.rest) (passed : c.Passes mark after) :
    c.skipBlankLines = (after.skipBlankLines.1, after.skipBlankLines.2 + 1) := by
  -- Whichever the terminator is, the run takes it as one line.
  have run : blankRun (mark ++ after.rest) =
      (mark.length + (blankRun after.rest).1, (blankRun after.rest).2 + 1) := by
    cases ends with
    | feed => simp [blankRun, isBreak, Nat.add_comm]
    | pair => simp [blankRun, Nat.add_comm]
    -- No line feed follows, so that the mark is not read as a pair.
    | lone apart =>
      rw [List.singleton_append, blankRun]
      · simp [isBreak, Nat.add_comm]
      · intro rest _ split
        exact apart (by rw [split]; rfl)
  unfold skipBlankLines
  rw [passed.rest, run]
  dsimp only
  rw [advance_add, ← passed.moved]

/-- At the end there are no blank lines. -/
theorem skipBlankLines_end {c : Cursor} (ended : c.rest = []) : c.skipBlankLines = (c, 0) := by
  unfold skipBlankLines
  rw [ended]
  rfl

/-- On a line, blanks are skipped up to the first other character. -/
theorem skipBlankLines_char {ch : Char} {c : Cursor} (inside : isBreak ch = false)
    (there : c.peek = some ch) :
    c.skipBlankLines = if isInlineSpace ch then c.next.skipBlankLines else (c, 0) := by
  unfold skipBlankLines
  -- The equation of a character that is not the first half of a pair.
  rw [rest_of_peek there, blankRun]
  · simp only [inside, Bool.false_eq_true, if_false]
    split <;> rfl
  · intro rest same _
    rw [same] at inside
    cases inside

end Cursor

/-- The text begins neither with a directive nor with a document marker. -/
structure Respelling.Unmarked (way : Respelling) : Prop where
  directive : (Cursor.start way.text).peek ≠ some '%'
  opening : (Cursor.start way.text).startsWithMarker openingMarker = false
  closing : (Cursor.start way.text).startsWithMarker closingMarker = false

namespace Respelling.Alike

variable {way : Respelling} {aligned : Prop} {n : Nat} {c d : Cursor}

/-- Layout is skipped alike, and behind a line break positions are aligned. -/
theorem layoutFrom (alike : way.Alike aligned n c d) (inComment : Bool) :
    (d.layoutFrom inComment).2 = (c.layoutFrom inComment).2 ∧
      way.Alike (aligned ∨ (c.layoutFrom inComment).2 = true) n (c.layoutFrom inComment).1
        (d.layoutFrom inComment).1 := by
  -- By induction on the characters that are left, a terminator counting as one.
  induction n generalizing aligned c d inComment with
  | zero =>
    cases alike.facing with
    | stop left right =>
      rw [Cursor.layoutFrom_end left, Cursor.layoutFrom_end right]
      exact ⟨rfl, alike.uncrossed⟩
  | succ n ih =>
    cases alike.facing with
    | stop left right =>
      rw [Cursor.layoutFrom_end left, Cursor.layoutFrom_end right]
      exact ⟨rfl, alike.uncrossed⟩
    | char inside left right further =>
      rw [Cursor.layoutFrom_char inside left, Cursor.layoutFrom_char inside right]
      split
      · obtain ⟨same, behind⟩ := ih further inComment
        exact ⟨same, behind.within alike⟩
      · split
        · obtain ⟨same, behind⟩ := ih further true
          exact ⟨same, behind.within alike⟩
        · exact ⟨rfl, alike.uncrossed⟩
    -- Whatever stood before, the next line begins at the margin on both sides.
    | line ends otherEnds left right further =>
      rw [Cursor.layoutFrom_line ends left, Cursor.layoutFrom_line otherEnds right]
      obtain ⟨_, behind⟩ := ih further false
      exact ⟨rfl, (behind.narrow fun _ => .inl trivial).within alike⟩

/-- Layout is skipped alike, and behind a line break positions are aligned. -/
theorem skipLayout (alike : way.Alike aligned n c d) :
    d.skipLayout.2 = c.skipLayout.2 ∧
      way.Alike (aligned ∨ c.skipLayout.2 = true) n c.skipLayout.1 d.skipLayout.1 :=
  alike.layoutFrom false

/-- Blank lines are skipped alike, and are as many. -/
theorem skipBlankLines (alike : way.Alike aligned n c d) :
    d.skipBlankLines.2 = c.skipBlankLines.2 ∧
      way.Alike aligned n c.skipBlankLines.1 d.skipBlankLines.1 := by
  -- By induction on the characters that are left, a terminator counting as one.
  induction n generalizing aligned c d with
  | zero =>
    cases alike.facing with
    | stop left right =>
      rw [Cursor.skipBlankLines_end left, Cursor.skipBlankLines_end right]
      exact ⟨rfl, alike⟩
  | succ n ih =>
    cases alike.facing with
    | stop left right =>
      rw [Cursor.skipBlankLines_end left, Cursor.skipBlankLines_end right]
      exact ⟨rfl, alike⟩
    | char inside left right further =>
      rw [Cursor.skipBlankLines_char inside left, Cursor.skipBlankLines_char inside right]
      split
      · obtain ⟨same, behind⟩ := ih further
        exact ⟨same, behind.within alike⟩
      · exact ⟨rfl, alike⟩
    -- A line more on both sides, however it ends.
    | line ends otherEnds left right further =>
      rw [Cursor.skipBlankLines_line ends left, Cursor.skipBlankLines_line otherEnds right]
      obtain ⟨same, behind⟩ := ih further
      exact ⟨by rw [same], behind.loosen.within alike⟩

/-! ### Document markers -/

/-- A marker with a blank behind it stands on both sides or on neither. -/
theorem startsWithMarker (alike : way.Alike aligned n c d) {marker : List Char}
    (line : ∀ ch ∈ marker, isBreak ch = false) (three : marker.length = 3) :
    d.startsWithMarker marker = c.startsWithMarker marker := by
  unfold Cursor.startsWithMarker
  rw [alike.startsWith line]
  cases there : c.startsWith marker with
  | false => rfl
  | true =>
    -- What has to be blank comes next behind the marker.
    have behind : ∀ e : Cursor, (e.rest.drop 3).head? = (e.advance marker.length).peek := by
      intro e
      rw [Cursor.peek, Cursor.rest_advance, three]
    rw [behind, behind, (alike.pass (alike.word line there)).isBlank_peek]

/-- A marker begins both lines or neither, at aligned positions and in texts that do not begin with
one. -/
theorem atMarker (alike : way.Alike aligned n c d) (known : aligned ∨ way.Unmarked)
    {marker : List Char} (marks : marker = openingMarker ∨ marker = closingMarker) :
    d.atMarker marker = c.atMarker marker := by
  have line : ∀ ch ∈ marker, isBreak ch = false := by
    rcases marks with rfl | rfl <;> exact unbroken_of_all rfl
  have three : marker.length = 3 := by
    rcases marks with rfl | rfl <;> rfl
  unfold Cursor.atMarker
  -- Either the columns are the same, or no position stands at the margin but the first one.
  rcases alike.column with same | ⟨free, right, left⟩
  · rw [same, alike.startsWithMarker line three]
  · -- Only at the very beginning one of the positions stands at the margin.
    have unmarked := known.resolve_left free
    rw [decide_eq_false (Nat.ne_of_gt right), Bool.false_and]
    by_cases margin : c.column = 0
    · have begins : c.startsWithMarker marker = false := by
        have whole := left margin
        unfold Cursor.startsWithMarker Cursor.startsWith
        rw [whole]
        rcases marks with rfl | rfl
        · exact unmarked.opening
        · exact unmarked.closing
      rw [begins, Bool.and_false]
    · rw [decide_eq_false margin, Bool.false_and]

/-- A document marker begins both lines or neither. -/
theorem atDocumentMarker (alike : way.Alike aligned n c d) (known : aligned ∨ way.Unmarked) :
    d.atDocumentMarker = c.atDocumentMarker := by
  unfold Cursor.atDocumentMarker
  rw [alike.atMarker known (.inl rfl), alike.atMarker known (.inr rfl)]

/-- A directive begins both lines or neither. -/
theorem atDirective_iff (alike : way.Alike aligned n c d) (known : aligned ∨ way.Unmarked) :
    d.column = 0 ∧ d.peek = some '%' ↔ c.column = 0 ∧ c.peek = some '%' := by
  rw [alike.peek_iff rfl]
  refine and_congr_left fun percent => ?_
  rcases alike.column with same | ⟨free, right, left⟩
  · rw [same]
  · -- Only at the very beginning one of the positions stands at the margin.
    refine iff_of_false (Nat.ne_of_gt right) fun margin => ?_
    have unmarked := known.resolve_left free
    exact unmarked.directive (by rw [← left margin]; exact percent)

/-- Directives are skipped alike, and behind a line break positions are aligned. -/
theorem skipDirectives (alike : way.Alike aligned n c d) (known : aligned ∨ way.Unmarked)
    {bound otherBound : Nat} (room : n < bound) (otherRoom : n < otherBound) :
    way.Alike (aligned ∨ c.skipLayout.2 = true) n (c.skipDirectives bound)
      (d.skipDirectives otherBound) := by
  -- By induction on the characters that are left: the line of a directive takes some of them.
  induction n using Nat.strongRecOn generalizing aligned bound otherBound c d with
  | ind n ih =>
    -- There is room for one directive more, since the bounds exceed what is left.
    obtain ⟨bound, rfl⟩ : ∃ more, bound = more + 1 := ⟨bound - 1, by omega⟩
    obtain ⟨otherBound, rfl⟩ : ∃ more, otherBound = more + 1 := ⟨otherBound - 1, by omega⟩
    have behind := alike.skipLayout.2
    have wider : (aligned ∨ c.skipLayout.2 = true) ∨ way.Unmarked := known.imp_left .inl
    have directive := behind.atDirective_iff wider
    unfold Cursor.skipDirectives
    dsimp only
    by_cases there : c.skipLayout.1.column = 0 ∧ c.skipLayout.1.peek = some '%'
    · rw [if_pos there, if_pos (directive.mpr there)]
      obtain ⟨m, rfl⟩ := behind.room_pos there.2
      -- The line of a directive takes at least its mark.
      have further : way.Alike (aligned ∨ c.skipLayout.2 = true) m c.skipLayout.1.skipLine
          d.skipLayout.1.skipLine := by
        have first := behind.next (x := '%') rfl there.2
        have lines : ∀ {e : Cursor}, e.peek = some '%' → e.skipLine = e.next.skipLine := by
          intro e percent
          unfold Cursor.skipLine Cursor.skipWhile
          rw [Cursor.rest_of_peek percent]
          rfl
        rw [lines there.2, lines (directive.mpr there).2]
        exact first.pass first.skipLine
      exact ((ih m (Nat.lt_succ_self _) further wider (by omega) (by omega)).narrow .inl).mono
        (Nat.le_succ _) alike.room
    · rw [if_neg there, if_neg (mt directive.mp there)]
      exact behind

end Respelling.Alike

end SpecTrace
