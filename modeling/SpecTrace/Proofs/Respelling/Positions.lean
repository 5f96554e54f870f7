import SpecTrace.Proofs.Respelling.Lines

/-! Positions in two spellings of a text behind which the same lines are left. -/

namespace SpecTrace

/-- The position stands in a text, behind as many bytes as its offset says. -/
def Cursor.StandsIn (text : List Char) (c : Cursor) : Prop :=
  ∃ front, text = front ++ c.rest ∧ c.offset = byteLength front

/-- Behind more of the text the position still stands in it. -/
theorem Cursor.StandsIn.pass {text word : List Char} {c d : Cursor} (stands : c.StandsIn text)
    (passed : c.Passes word d) : d.StandsIn text := by
  obtain ⟨front, whole, offset⟩ := stands
  refine ⟨front ++ word, ?_, ?_⟩
  · rw [whole, passed.rest, List.append_assoc]
  · rw [passed.offset, offset, byteLength_append]

/-- Every text is read from where it begins. -/
theorem Cursor.standsIn_start (text : List Char) : (Cursor.start text).StandsIn text :=
  ⟨[], rfl, rfl⟩

/-- Two positions move on along one line by the same characters. -/
def Abreast (c d cEnd dEnd : Cursor) : Prop :=
  ∃ word, (∀ ch ∈ word, isBreak ch = false) ∧ c.Passes word cEnd ∧ d.Passes word dEnd

namespace Abreast

variable {c d c₁ d₁ c₂ d₂ : Cursor}

/-- Positions that do not move stay abreast. -/
theorem refl (c d : Cursor) : Abreast c d c d :=
  ⟨[], by simp, .refl c, .refl d⟩

/-- Moves follow one another. -/
theorem trans (first : Abreast c d c₁ d₁) (second : Abreast c₁ d₁ c₂ d₂) :
    Abreast c d c₂ d₂ := by
  obtain ⟨front, frontLine, passed, otherPassed⟩ := first
  obtain ⟨back, backLine, further, otherFurther⟩ := second
  refine ⟨front ++ back, ?_, passed.trans further, otherPassed.trans otherFurther⟩
  exact List.forall_mem_append.mpr ⟨frontLine, backLine⟩

/-- A character of the line that comes next on both sides is one step. -/
theorem next {ch : Char} (inside : isBreak ch = false) (here : c.peek = some ch)
    (there : d.peek = some ch) : Abreast c d c.next d.next :=
  ⟨[ch], by simpa using inside, .next here, .next there⟩

/-- Both sides move by the same case. -/
theorem ite {p q : Prop} [Decidable p] [Decidable q] (same : q ↔ p)
    (holds : p → Abreast c d c₁ d₁) (fails : ¬ p → Abreast c d c₂ d₂) :
    Abreast c d (if p then c₁ else c₂) (if q then d₁ else d₂) := by
  -- The two conditions are the same, so they choose the same branch.
  by_cases case : p
  · rw [if_pos case, if_pos (same.mpr case)]
    exact holds case
  · rw [if_neg case, if_neg (mt same.mp case)]
    exact fails case

end Abreast

/-- A text and another spelling of it. -/
structure Respelling where
  /-- The text that is spelled in another way. -/
  text : List Char
  /-- The other spelling. -/
  respelt : List Char
  /-- What is left to be read is the same in both, line breaks included. -/
  verbatim : Prop
  /-- A tag may hold line breaks, and keeps them as they are. -/
  tagless : verbatim ∨ '!' ∉ text

namespace Respelling

/-- Positions behind which the same lines are left, of at most `n` characters. Positions that are
aligned stand at the same column; others have one in common as soon as a line has ended. -/
structure Alike (way : Respelling) (aligned : Prop) (n : Nat) (c d : Cursor) : Prop where
  lines : SameLines n c.rest d.rest
  verbatim : way.verbatim → d.rest = c.rest
  room : n ≤ way.text.length ∧ n ≤ way.respelt.length
  here : c.StandsIn way.text
  there : d.StandsIn way.respelt
  column : d.column = c.column ∨ ¬ aligned ∧ 0 < d.column ∧ (c.column = 0 → c.rest = way.text)

/-- What comes next at two positions: the end, a character of the line, or the end of the line. -/
inductive Facing (way : Respelling) (aligned : Prop) : Nat → Cursor → Cursor → Prop
  | stop {n : Nat} {c d : Cursor} (left : c.rest = []) (right : d.rest = []) :
      Facing way aligned n c d
  | char {n : Nat} {ch : Char} {c d : Cursor} (inside : isBreak ch = false)
      (left : c.peek = some ch) (right : d.peek = some ch)
      (further : way.Alike aligned n c.next d.next) : Facing way aligned (n + 1) c d
  | line {n : Nat} {mark otherMark : List Char} {c d cEnd dEnd : Cursor}
      (ends : Terminator mark cEnd.rest) (otherEnds : Terminator otherMark dEnd.rest)
      (left : c.Passes mark cEnd) (right : d.Passes otherMark dEnd)
      (further : way.Alike True n cEnd dEnd) : Facing way aligned (n + 1) c d

namespace Alike

variable {way : Respelling} {aligned : Prop} {n m : Nat} {c d cEnd dEnd : Cursor}

/-- Positions may be aligned under a narrower condition. -/
theorem narrow {narrower : Prop} (alike : way.Alike aligned n c d) (imp : narrower → aligned) :
    way.Alike narrower n c d :=
  ⟨alike.lines, alike.verbatim, alike.room, alike.here, alike.there,
    alike.column.imp_right fun drift => ⟨fun holds => drift.1 (imp holds), drift.2⟩⟩

/-- Where no line break was crossed, positions are aligned as before. -/
theorem uncrossed (alike : way.Alike aligned n c d) : way.Alike (aligned ∨ false = true) n c d :=
  alike.narrow fun either => either.resolve_right Bool.false_ne_true

/-- Aligned positions may be taken for ones that need not be. -/
theorem loosen (alike : way.Alike True n c d) : way.Alike aligned n c d :=
  alike.narrow fun _ => trivial

/-- More characters may be allowed for, as far as the texts have as many. -/
theorem mono (alike : way.Alike aligned n c d) (le : n ≤ m)
    (room : m ≤ way.text.length ∧ m ≤ way.respelt.length) : way.Alike aligned m c d :=
  ⟨alike.lines.mono le, alike.verbatim, room, alike.here, alike.there, alike.column⟩

/-- Positions behind others are alike with the character that was passed allowed for again. -/
theorem within {other : Prop} {e f : Cursor} (alike : way.Alike aligned n c d)
    (outer : way.Alike other (n + 1) e f) : way.Alike aligned (n + 1) c d :=
  alike.mono (Nat.le_succ n) outer.room

/-- Aligned positions stand at the same column. -/
theorem column_eq (alike : way.Alike True n c d) : d.column = c.column :=
  alike.column.resolve_right fun drift => drift.1 trivial

/-- Behind the same characters of a line the same lines are left. -/
theorem step {ch : Char} (alike : way.Alike aligned n c d) (inside : isBreak ch = false)
    (left : c.peek = some ch) (right : d.peek = some ch)
    (further : SameLines m c.next.rest d.next.rest) (le : m ≤ n) :
    way.Alike aligned m c.next d.next where
  lines := further
  verbatim exactly := by
    rw [Cursor.rest_next, Cursor.rest_next, alike.verbatim exactly]
  room := ⟨Nat.le_trans le alike.room.1, Nat.le_trans le alike.room.2⟩
  here := alike.here.pass (.next left)
  there := alike.there.pass (.next right)
  column := by
    have line : ∀ ch' ∈ [ch], isBreak ch' = false := by simpa using inside
    have size : 0 < byteLength [ch] := by simpa using ch.utf8Size_pos
    -- Both columns grow by the character, so neither is zero.
    rw [(Cursor.Passes.next left).column line, (Cursor.Passes.next right).column line]
    -- Columns that were apart stay apart, and no position is the first one any more.
    rcases alike.column with same | ⟨free, _, _⟩
    · exact .inl (by rw [same])
    · exact .inr ⟨free, by omega, by omega⟩

/-- Behind the end of a line positions are aligned. -/
theorem wrap {mark otherMark : List Char} (alike : way.Alike aligned n c d)
    (ends : Terminator mark cEnd.rest) (otherEnds : Terminator otherMark dEnd.rest)
    (left : c.Passes mark cEnd) (right : d.Passes otherMark dEnd)
    (further : SameLines m cEnd.rest dEnd.rest) (le : m ≤ n) :
    way.Alike True m cEnd dEnd where
  lines := further
  verbatim exactly := by
    have same := alike.verbatim exactly
    rw [left.rest, right.rest] at same
    exact otherEnds.unique ends same
  room := ⟨Nat.le_trans le alike.room.1, Nat.le_trans le alike.room.2⟩
  here := alike.here.pass left
  there := alike.there.pass right
  -- The last character of either mark is a break, which sets the column back.
  column := by
    obtain ⟨front, ch, rfl, breaks⟩ := ends.last
    obtain ⟨otherFront, otherCh, rfl, otherBreaks⟩ := otherEnds.last
    exact .inl (by rw [left.column_break breaks, right.column_break otherBreaks])

/-- The lines that are left decide what comes next. -/
theorem facing (alike : way.Alike aligned n c d) : way.Facing aligned n c d := by
  -- What is left of the texts tells the case, and the positions stand in front of it.
  have lines := alike.lines
  generalize left : c.rest = rest at lines
  generalize right : d.rest = otherRest at lines
  cases lines with
  | done => exact .stop left right
  | char inside same =>
    rename_i ch _ _
    have here : c.peek = some ch := by simp [Cursor.peek, left]
    have there : d.peek = some ch := by simp [Cursor.peek, right]
    refine .char inside here there (alike.step inside here there ?_ (Nat.le_succ _))
    simpa [left, right] using same
  -- The marks are passed, and the cursors behind them are in front of what is left.
  | line ends otherEnds same =>
    have passed := Cursor.Passes.of_rest left
    have otherPassed := Cursor.Passes.of_rest right
    have rest := List.append_cancel_left (passed.rest.symm.trans left)
    have otherRest := List.append_cancel_left (otherPassed.rest.symm.trans right)
    rw [← rest] at ends same
    rw [← otherRest] at otherEnds same
    exact .line ends otherEnds passed otherPassed
      (alike.wrap ends otherEnds passed otherPassed same (Nat.le_succ _))

/-- Positions that move on abreast stay alike. -/
theorem pass (alike : way.Alike aligned n c d) (abreast : Abreast c d cEnd dEnd) :
    way.Alike aligned n cEnd dEnd := by
  obtain ⟨word, line, left, right⟩ := abreast
  -- By induction on the characters that are passed.
  induction word generalizing c d with
  | nil =>
    rw [left.eq_of_nil, right.eq_of_nil]
    exact alike
  | cons ch rest ih =>
    -- The character comes next on both sides, so it is neither the end nor a break.
    refine ih ?_ (fun other member => line other (List.mem_cons_of_mem _ member)) left.tail
      right.tail
    have inside := line ch List.mem_cons_self
    cases alike.facing with
    | stop empty _ => simp [left.rest] at empty
    | char _ here there further => exact further.within alike
    | line ends _ passed _ _ =>
      obtain ⟨first, others, split, breaks⟩ := ends.first _
      have same := passed.rest.symm.trans left.rest
      rw [split] at same
      rw [(List.cons.inj same).1, inside] at breaks
      cases breaks

/-- Where the same characters are left, positions may move on by any number of them. -/
theorem advance_verbatim (alike : way.Alike aligned n c d) (exactly : way.verbatim)
    (count : Nat) : way.Alike aligned n (c.advance count) (d.advance count) := by
  -- By induction on the characters that are passed, breaks among them.
  induction count generalizing c d with
  | zero => exact alike
  | succ count ih =>
    -- The same character is passed on both sides, be it half of a pair.
    refine ih ?_
    have same := alike.verbatim exactly
    cases left : c.rest with
    | nil =>
      -- At the end nothing moves.
      have right := same.trans left
      have stays : ∀ {e : Cursor}, e.rest = [] → e.next = e := by
        intro e ended
        simp [Cursor.next, ended]
      rw [stays left, stays right]
      exact alike
    | cons ch rest =>
      have right := same.trans left
      have lines := alike.lines
      rw [left, right] at lines
      have here : c.Passes [ch] c.next := .next (by simp [Cursor.peek, left])
      have there : d.Passes [ch] d.next := .next (by simp [Cursor.peek, right])
      have size : 0 < ch.utf8Size := ch.utf8Size_pos
      refine ⟨?_, ?_, alike.room, alike.here.pass here, alike.there.pass there, ?_⟩
      · simpa [left, right] using lines.tail rfl
      · intro _
        rw [Cursor.rest_next, Cursor.rest_next, same]
      · -- A break sets both columns back, and any other character adds to both.
        simp only [Cursor.next, left, right]
        split
        · exact .inl rfl
        · rcases alike.column with equal | ⟨free, _, _⟩
          · exact .inl (by rw [equal])
          · exact .inr ⟨free, by omega, by omega⟩

/-- Where an exclamation mark is left, the same characters are left. -/
theorem verbatim_of_tag (alike : way.Alike aligned n c d) (there : c.peek = some '!') :
    way.verbatim := by
  obtain ⟨front, whole, _⟩ := alike.here
  -- The mark stands in the text, so the text is not one without it.
  refine way.tagless.resolve_right (not_not_intro ?_)
  unfold Cursor.peek at there
  obtain ⟨rest, left⟩ := List.head?_eq_some_iff.mp there
  rw [whole, left]
  simp

end Alike

end Respelling

end SpecTrace
