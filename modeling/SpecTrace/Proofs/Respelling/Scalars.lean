import SpecTrace.Proofs.Respelling.Json
import SpecTrace.Proofs.Yaml.FoldedText
import SpecTrace.Yaml.BlockScalar
import SpecTrace.Yaml.Flow

/-! The scalars of YAML are read alike from two spellings of a text. -/

namespace SpecTrace.Yaml

open Respelling

variable {way : Respelling} {aligned : Prop} {n bound otherBound began otherBegan : Nat}
  {c d : Cursor}

/-- Spans whose ends meet as well as their starts. -/
def Meeting (way : Respelling) (span other : Span) : Prop :=
  way.Meets span.start other.start ∧ way.Meets span.stop other.stop

/-! ### Scalars in quotes -/

/-- A hexadecimal escape spells a character by a number of bytes. -/
theorem readHexEscape_eq (length : Nat) (c : Cursor) :
    readHexEscape length c = decodeBytes (fun digits => (readNatural? 16 digits).bind charOfCode?)
      length .truncatedEscapeSequence .invalidEscapeSequence c := by
  -- Both take the bytes first and then read them as the code of a character.
  unfold readHexEscape decodeBytes
  cases takeExactBytes? length c.rest with
  | none => rfl
  | some digits =>
    dsimp only
    cases (readNatural? 16 digits).bind charOfCode? <;> rfl

/-- A hexadecimal escape is read alike. -/
theorem readHexEscape_agree (alike : way.Alike aligned n c d) (length : Nat) :
    way.Agree (Both Eq (way.Alike aligned n)) (readHexEscape length c)
      (readHexEscape length d) := by
  rw [readHexEscape_eq, readHexEscape_eq]
  -- What could be decoded holds digits only, so no break was among the bytes.
  refine alike.decodeBytes_agree (fun decoded => ?_) length _ _
  obtain ⟨number, read, _⟩ := Option.bind_eq_some_iff.mp decoded
  exact readNatural?_inside read

/-- Behind a character that was read the offset is positive. -/
theorem offset_next_pos {ch : Char} (there : c.peek = some ch) : 0 < c.next.offset := by
  have size := ch.utf8Size_pos
  rw [(Cursor.Passes.next there).offset, byteLength_cons]
  omega

/-- What stands after a backslash is read alike. -/
theorem readEscape_agree (alike : way.Alike aligned n c d) :
    way.Agree (Both Eq (way.Alike aligned n)) (readEscape c) (readEscape d) := by
  unfold readEscape
  -- By what comes behind the backslash.
  cases alike.facing with
  | stop left right =>
    unfold Cursor.peek
    rw [left, right]
    exact .fail alike _
  | char inside left right further =>
    rw [left, right]
    dsimp only
    rw [if_neg (by simp [inside]), if_neg (by simp [inside])]
    have behind := further.within alike
    split
    · refine (readHexEscape_agree behind _).bind ?_
      rintro ⟨decoded, _⟩ ⟨_, _⟩ ⟨rfl, after⟩
      exact .ok ⟨rfl, after⟩
    · split
      · exact .ok ⟨rfl, behind⟩
      · -- The escape is refused at its last byte.
        refine .fault (fun exactly => ?_) _
        have shifts := further.meets.shifts exactly
        have here := offset_next_pos left
        have there := offset_next_pos right
        unfold Shifts at shifts ⊢
        omega
  | line ends otherEnds left right further =>
    obtain ⟨ch, there, breaks⟩ := ends.peek left
    obtain ⟨other, otherThere, otherBreaks⟩ := otherEnds.peek right
    rw [there, otherThere]
    dsimp only
    -- An escaped line break is skipped with the blanks behind it.
    rw [if_pos breaks, if_pos otherBreaks]
    have behind := alike.skipBreak
    exact .ok ⟨rfl, behind.pass behind.skipInlineSpace⟩

/-- A line break is folded alike, and takes a terminator at least. -/
theorem foldBreak_alike (alike : way.Alike aligned (n + 1) c d) {ch : Char}
    (there : c.peek = some ch) (breaks : isBreak ch = true) (read : List Char) :
    (foldBreak read d).1 = (foldBreak read c).1 ∧
      way.Alike True n (foldBreak read c).2 (foldBreak read d).2 := by
  obtain ⟨same, behind⟩ := (alike.skipBreak_line there breaks).skipBlankLines
  exact ⟨by unfold foldBreak; dsimp only; rw [same], behind⟩

/-- At the end of the text a quoted scalar has not ended. -/
theorem readQuotedRest_end {began : Nat} (ended : c.rest = []) (quote : Char) (bound : Nat)
    (read : List Char) :
    readQuotedRest began quote bound read c = .error ⟨began, .unterminatedQuoted⟩ := by
  -- With or without steps left, the answer is the same fault.
  cases bound with
  | zero => rfl
  | succ bound =>
    unfold readQuotedRest Cursor.peek
    rw [ended]
    rfl

/-- The rest of a quoted scalar is read alike. -/
theorem readQuotedRest_agree {quote : Char} (inside : isBreak quote = false)
    (alike : way.Alike aligned n c d) (begins : way.Meets began otherBegan) (read : List Char)
    (room : n ≤ bound) (otherRoom : n ≤ otherBound) :
    way.Agree (Both Eq (way.Alike aligned n)) (readQuotedRest began quote bound read c)
      (readQuotedRest otherBegan quote otherBound read d) := by
  -- By induction on the characters that are left: every step takes one of them or more.
  induction n using Nat.strongRecOn generalizing aligned bound otherBound read c d with
  | ind n ih =>
    -- Whatever comes next leaves less, and the rest of the scalar is read from there.
    have goesOn : ∀ {m more otherMore : Nat} {e f : Cursor} (read : List Char), m < n →
        way.Alike aligned m e f → m ≤ more → m ≤ otherMore →
        way.Agree (Both Eq (way.Alike aligned n)) (readQuotedRest began quote more read e)
          (readQuotedRest otherBegan quote otherMore read f) := by
      intro m more otherMore e f read less further room otherRoom
      exact (ih m less further read room otherRoom).imp fun _ _ both =>
        ⟨both.1, both.2.mono (Nat.le_of_lt less) alike.room⟩
    cases alike.facing with
    | stop left right =>
      rw [readQuotedRest_end left, readQuotedRest_end right]
      exact .fault begins.shifts _
    | @char m ch _ _ plain left right further =>
      obtain ⟨bound, rfl⟩ : ∃ more, bound = more + 1 := ⟨bound - 1, by omega⟩
      obtain ⟨otherBound, rfl⟩ : ∃ more, otherBound = more + 1 := ⟨otherBound - 1, by omega⟩
      rw [readQuotedRest, readQuotedRest, left, right]
      -- The quote, then a backslash, then any other character of the line.
      refine .ite Iff.rfl (fun _ => ?_) fun _ => ?_
      · -- A doubled single quote stands for one, any other quote ends the scalar.
        rw [Cursor.peekSecond_eq, Cursor.peekSecond_eq]
        refine .ite (and_congr Iff.rfl (further.peek_iff rfl)) (fun doubled => ?_) fun _ =>
          .ok ⟨rfl, further.within alike⟩
        obtain ⟨k, rfl⟩ := further.room_pos doubled.2
        exact goesOn _ (by omega) (further.next rfl doubled.2) (by omega) (by omega)
      refine .ite Iff.rfl (fun _ => ?_) fun _ => ?_
      · refine (readEscape_agree further).bind ?_
        rintro ⟨decoded, _⟩ ⟨_, _⟩ ⟨rfl, after⟩
        exact goesOn _ (by omega) after (by omega) (by omega)
      rw [if_neg (by simp [plain]), if_neg (by simp [plain])]
      exact goesOn _ (by omega) further (by omega) (by omega)
    | @line m _ _ _ _ _ _ ends otherEnds left right further =>
      obtain ⟨bound, rfl⟩ : ∃ more, bound = more + 1 := ⟨bound - 1, by omega⟩
      obtain ⟨otherBound, rfl⟩ : ∃ more, otherBound = more + 1 := ⟨otherBound - 1, by omega⟩
      obtain ⟨ch, there, breaks⟩ := ends.peek left
      obtain ⟨other, otherThere, otherBreaks⟩ := otherEnds.peek right
      -- A break is neither the quote nor a backslash.
      have folds : ∀ {began bound : Nat} {e : Cursor} {ch : Char}, e.peek = some ch →
          isBreak ch = true → readQuotedRest began quote (bound + 1) read e =
            readQuotedRest began quote bound (foldBreak read e).1 (foldBreak read e).2 := by
        intro began bound e ch there breaks
        have notQuote : ch ≠ quote := ne_of_break breaks inside
        have notEscape : ¬ (ch = '\\' ∧ quote = '"') := fun escape =>
          ne_of_break breaks rfl escape.1
        rw [readQuotedRest, there]
        dsimp only
        rw [if_neg notQuote, if_neg notEscape, if_pos breaks]
      obtain ⟨same, behind⟩ := foldBreak_alike alike there breaks read
      rw [folds there breaks, folds otherThere otherBreaks, same]
      exact goesOn _ (by omega) behind.loosen (by omega) (by omega)

/-- A quoted scalar is read alike. -/
theorem readQuoted_agree (alike : way.Alike aligned n c d) (quoted : c.atQuote = true)
    (room : n ≤ bound) (otherRoom : n ≤ otherBound) :
    way.Agree (Both (Both Eq (Meeting way)) (way.Alike aligned n)) (readQuoted bound c)
      (readQuoted otherBound d) := by
  -- Either quote is a character of the line.
  obtain ⟨quote, inside, there⟩ : ∃ quote, isBreak quote = false ∧ c.peek = some quote := by
    simp only [Cursor.atQuote, Bool.or_eq_true, decide_eq_true_eq] at quoted
    rcases quoted with there | there
    · exact ⟨'"', rfl, there⟩
    · exact ⟨'\'', rfl, there⟩
  have otherThere := (alike.peek_iff inside).mpr there
  unfold readQuoted
  rw [there, otherThere]
  have opened := alike.pass (.next inside there otherThere)
  refine (readQuotedRest_agree inside opened alike.meets [] room otherRoom).bind ?_
  rintro ⟨text, _⟩ ⟨_, _⟩ ⟨rfl, after⟩
  exact .ok ⟨⟨rfl, alike.meets, after.meets⟩, after⟩

/-! ### Plain scalars -/

/-- A blank ends a text whether or not a break is cut off with what follows it. -/
theorem isBlank_lineOf (rest : List Char) : isBlank (lineOf rest).head? = isBlank rest.head? := by
  cases rest with
  | nil => rfl
  | cons ch others =>
    cases breaks : isBreak ch with
    | true => rw [lineOf_break breaks]; simp [isBlank, breaks]
    | false => rw [lineOf_cons breaks]; rfl

/-- The scan of a line sees no further than the line. -/
theorem scanLine_lineOf (afterBlank : Bool) (read text : Nat) (rest : List Char) :
    scanLine afterBlank read text (lineOf rest) = scanLine afterBlank read text rest := by
  -- By induction on the text: the scan stops at the break at the latest.
  induction rest generalizing afterBlank read text with
  | nil => rfl
  | cons ch others ih =>
    cases breaks : isBreak ch with
    | true => rw [lineOf_break breaks]; simp [scanLine, breaks]
    | false =>
      rw [lineOf_cons breaks, scanLine, scanLine, isBlank_lineOf]
      simp only [ih]

/-- The text of a line is no longer than what was scanned. -/
theorem scanLine_le (afterBlank : Bool) {read text : Nat} (ordered : text ≤ read)
    (rest : List Char) : (scanLine afterBlank read text rest).1 ≤ read + rest.length := by
  -- By induction on the text: a step reads one character, and the text ends among those read.
  induction rest generalizing afterBlank read text with
  | nil => exact Nat.le_trans ordered (Nat.le_add_right _ _)
  | cons ch others ih =>
    have blank := ih true (show text ≤ read + 1 by omega)
    have other := ih false (Nat.le_refl (read + 1))
    rw [scanLine, List.length_cons]
    split
    · exact Nat.le_trans ordered (Nat.le_add_right _ _)
    · split
      · exact Nat.le_trans ordered (Nat.le_add_right _ _)
      · split
        · exact Nat.le_trans ordered (Nat.le_add_right _ _)
        · split <;> omega

/-- The first characters of a line are those of the text. -/
theorem take_lineOf {count : Nat} {rest : List Char} (within : count ≤ (lineOf rest).length) :
    rest.take count = (lineOf rest).take count := by
  have split : rest = lineOf rest ++ rest.dropWhile fun ch => !isBreak ch :=
    List.takeWhile_append_dropWhile.symm
  exact (congrArg (List.take count) split).trans (List.take_append_of_le_length within)

/-- The plain text on a line is the same and is passed abreast, and the same ends it. -/
theorem scanPlainLine_alike (alike : way.Alike aligned n c d) :
    (scanPlainLine d).1 = (scanPlainLine c).1 ∧
      Abreast c d (scanPlainLine c).2.1 (scanPlainLine d).2.1 ∧
      (scanPlainLine d).2.2 = (scanPlainLine c).2.2 := by
  unfold scanPlainLine
  -- The scan is that of the line, which is the same on both sides.
  have within := scanLine_le true (Nat.le_refl 0) (lineOf c.rest)
  rw [Nat.zero_add, scanLine_lineOf] at within
  have same : scanLine true 0 0 d.rest = scanLine true 0 0 c.rest := by
    rw [← scanLine_lineOf, alike.lineOf_eq, scanLine_lineOf]
  dsimp only
  rw [same]
  refine ⟨?_, alike.advance within, rfl⟩
  rw [take_lineOf within, take_lineOf (by rw [alike.lineOf_eq]; exact within), alike.lineOf_eq]

/-- The lines that continue a plain scalar are read alike. -/
theorem readContinuation_agree (alike : way.Alike aligned n c d) (margin : Nat)
    (text : List Char) (room : n ≤ bound) (otherRoom : n ≤ otherBound) :
    way.Agree (Both Eq (way.Alike aligned n)) (readContinuation margin bound text c)
      (readContinuation margin otherBound text d) := by
  -- By induction on the characters that are left: each line takes its terminator.
  induction n using Nat.strongRecOn generalizing aligned bound otherBound text c d with
  | ind n ih =>
    -- A line that nothing follows leaves the scalar as it was read so far.
    have stays : ∀ {bound : Nat} {e : Cursor}, e.skipInlineSpace.skipBreak? = none →
        readContinuation margin bound text e = .ok (text, e) := by
      intro bound e ended
      cases bound with
      | zero => rfl
      | succ bound => rw [readContinuation, ended]
    have spaced := alike.pass alike.skipInlineSpace
    rcases spaced.skipBreak? with ⟨left, right⟩ | ⟨m, e, f, rfl, left, right, nextLine⟩
    · rw [stays left, stays right]
      exact .ok ⟨rfl, alike⟩
    · obtain ⟨bound, rfl⟩ : ∃ more, bound = more + 1 := ⟨bound - 1, by omega⟩
      obtain ⟨otherBound, rfl⟩ : ∃ more, otherBound = more + 1 := ⟨otherBound - 1, by omega⟩
      -- The next line with content is compared with the margin at aligned positions.
      obtain ⟨blankLines, line⟩ := nextLine.skipBlankLines
      obtain ⟨same, after, stops⟩ := scanPlainLine_alike line
      have behind := line.pass after
      rw [readContinuation, readContinuation, left, right]
      dsimp only
      -- Whether the line belongs to the scalar is told by what both lines have in common.
      rw [line.atEnd, line.atDocumentMarker (.inl trivial), line.column_eq, blankLines, same, stops,
        decide_eq_decide.mpr (line.peek_iff (x := '#') rfl)]
      refine .ite Iff.rfl (fun _ => .ok ⟨rfl, alike⟩) fun _ => ?_
      cases (scanPlainLine e.skipBlankLines.1).2.2 with
      | colon => exact .fail line _
      | comment => exact .ok ⟨rfl, behind.loosen.within alike⟩
      | lineEnd =>
        exact (ih m (Nat.lt_succ_self _) behind _ (by omega) (by omega)).imp fun _ _ both =>
          ⟨both.1, both.2.loosen.within alike⟩

/-- A plain scalar is read alike. -/
theorem readPlain_agree (alike : way.Alike aligned n c d) (margin : Nat) (room : n ≤ bound)
    (otherRoom : n ≤ otherBound) :
    way.Agree (Both way.Same (way.Alike aligned n)) (readPlain bound margin c)
      (readPlain otherBound margin d) := by
  obtain ⟨same, abreast, stops⟩ := scanPlainLine_alike alike
  have behind := alike.pass abreast
  -- A text that is no string stands on one line, so it is written with the same characters.
  have finish : ∀ {x y : List Char × Cursor}, x.1 = y.1 → way.Alike aligned n x.2 y.2 →
      (x = ((scanPlainLine c).1, (scanPlainLine c).2.1) ∧
          y = ((scanPlainLine d).1, (scanPlainLine d).2.1) ∨ ∃ ch ∈ x.1, IsJoint ch) →
      way.Agree (Both way.Same (way.Alike aligned n))
        (.ok (.scalar (resolvePlain x.1) ⟨c.offset, x.2.offset⟩, x.2))
        (.ok (.scalar (resolvePlain y.1) ⟨d.offset, y.2.offset⟩, y.2)) := by
    intro x y texts further shape
    refine .ok ⟨?_, further⟩
    rcases shape with ⟨rfl, rfl⟩ | ⟨ch, member, joint⟩
    · dsimp only
      rw [same]
      exact alike.scalar_same abreast _
    · dsimp only
      rw [← texts, resolvePlain_joint joint member]
      exact .scalar (alike.meets.span further.meets) rfl
  unfold readPlain
  rcases left : scanPlainLine c with ⟨first, cEnd, stop⟩
  rcases right : scanPlainLine d with ⟨otherFirst, dEnd, otherStop⟩
  rw [left, right] at same abreast stops behind finish
  cases same
  cases stops
  dsimp only
  refine .ite Iff.rfl (fun _ => ?_) fun _ => finish (x := (first, cEnd)) (y := (first, dEnd)) rfl
    behind (.inl ⟨rfl, rfl⟩)
  refine (readContinuation_agree behind margin first room otherRoom).answers.bind ?_
  rintro ⟨text, e⟩ ⟨_, f⟩ ⟨⟨rfl, further⟩, answered, otherAnswered⟩
  refine finish rfl further ?_
  -- If nothing was added on either side the scalar is its first line; otherwise there is a joint.
  rcases readContinuation_joint answered with ⟨rfl, rfl⟩ | joint
  · rcases readContinuation_joint otherAnswered with ⟨_, rfl⟩ | joint
    · exact .inl ⟨rfl, rfl⟩
    · exact .inr joint
  · exact .inr joint

/-! ### Scalars in flow collections -/

/-- A mark ends a text whether or not a break is cut off with what follows it. -/
theorem isFlowIndicator_lineOf (rest : List Char) :
    (lineOf rest).head?.any isFlowIndicator = rest.head?.any isFlowIndicator := by
  -- Cut off in front of a break the rest is empty, and neither break is such a mark.
  cases rest with
  | nil => rfl
  | cons ch others =>
    cases breaks : isBreak ch with
    | true =>
      rw [lineOf_break breaks]
      rcases break_cases breaks with rfl | rfl <;> rfl
    | false => rw [lineOf_cons breaks]; rfl

/-- The scan of a scalar in a flow collection sees no further than the line. -/
theorem scanFlow_lineOf (afterBlank : Bool) (read text : Nat) (rest : List Char) :
    scanFlow afterBlank read text (lineOf rest) = scanFlow afterBlank read text rest := by
  -- By induction on the text, as for the scan of a line.
  induction rest generalizing afterBlank read text with
  | nil => rfl
  | cons ch others ih =>
    cases breaks : isBreak ch with
    | true => rw [lineOf_break breaks]; simp [scanFlow, breaks]
    | false =>
      rw [lineOf_cons breaks, scanFlow, scanFlow, isBlank_lineOf, isFlowIndicator_lineOf]
      simp only [ih]

/-- The text of a scalar in a flow collection is no longer than what was scanned. -/
theorem scanFlow_le (afterBlank : Bool) {read text : Nat} (ordered : text ≤ read)
    (rest : List Char) : scanFlow afterBlank read text rest ≤ read + rest.length := by
  -- By induction on the text; wherever the scan stops, the text ended before.
  induction rest generalizing afterBlank read text with
  | nil => exact Nat.le_trans ordered (Nat.le_add_right _ _)
  | cons ch others ih =>
    have blank := ih true (show text ≤ read + 1 by omega)
    have other := ih false (Nat.le_refl (read + 1))
    have stops : text ≤ read + (others.length + 1) := by omega
    rw [scanFlow, List.length_cons]
    split
    · exact stops
    · split
      · exact stops
      · split
        · exact stops
        · split <;> omega

/-- Scalars with the same value and text, whose ends meet as well as their starts. -/
structure SameScalar (way : Respelling) (first second : Scalar × Span) : Prop where
  value : first.1 = second.1
  spans : Meeting way first.2 second.2
  text : scalarText way.respelt second.1 second.2 = scalarText way.text first.1 first.2

/-- A scalar in a flow collection is read alike. -/
theorem readFlowScalar_agree (alike : way.Alike aligned n c d) (room : n ≤ bound)
    (otherRoom : n ≤ otherBound) :
    way.Agree (Both (SameScalar way) (way.Alike aligned n)) (readFlowScalar bound c)
      (readFlowScalar otherBound d) := by
  unfold readFlowScalar
  rw [alike.atQuote]
  refine .ite Iff.rfl (fun quoted => ?_) fun _ => ?_
  · refine (readQuoted_agree alike quoted room otherRoom).bind ?_
    rintro ⟨⟨text, span⟩, _⟩ ⟨⟨_, other⟩, _⟩ ⟨⟨rfl, spans⟩, after⟩
    exact .ok ⟨⟨rfl, spans, rfl⟩, after⟩
  · have within := scanFlow_le true (Nat.le_refl 0) (lineOf c.rest)
    rw [Nat.zero_add, scanFlow_lineOf] at within
    have same : scanFlow true 0 0 d.rest = scanFlow true 0 0 c.rest := by
      rw [← scanFlow_lineOf, alike.lineOf_eq, scanFlow_lineOf]
    dsimp only
    rw [same]
    refine .ite Iff.rfl (fun _ => .fail alike _) fun _ => ?_
    have abreast := alike.advance within
    have after := alike.pass abreast
    -- The text is the same, since it stands on one line.
    have text : d.rest.take (scanFlow true 0 0 c.rest) =
        c.rest.take (scanFlow true 0 0 c.rest) := by
      rw [take_lineOf within, take_lineOf (by rw [alike.lineOf_eq]; exact within),
        alike.lineOf_eq]
    rw [text]
    refine .ok ⟨⟨rfl, ⟨alike.meets, after.meets⟩, ?_⟩, after⟩
    cases alike.scalar_same abreast (resolvePlain _) with
    | scalar _ same => exact same

/-! ### Block scalars -/

/-- Positions that move abreast move both or neither. -/
theorem moved_iff {cEnd dEnd : Cursor} (abreast : Abreast c d cEnd dEnd) :
    d.offset < dEnd.offset ↔ c.offset < cEnd.offset := by
  obtain ⟨word, _, left, right⟩ := abreast
  rw [left.offset, right.offset]
  omega

/-- The same lines, the last of which ends at positions that are alike. -/
structure SameBlock (way : Respelling) (aligned : Prop) (n : Nat) (lines others : BlockLines) :
    Prop where
  content : others.content = lines.content
  blanks : others.blanks = lines.blanks
  stop : way.Alike aligned n lines.stop others.stop

/-- At the end of the text the lines have ended. -/
theorem collectLines_end (ended : c.rest = []) (margin bound : Nat) (indentation : Option Nat)
    (lines : BlockLines) : collectLines margin bound indentation lines c = lines := by
  cases bound with
  | zero => rfl
  | succ bound => simp [collectLines, Cursor.atEnd, ended]

/-- Behind the end of a line the next lines are collected alike, if there are any. -/
theorem continueLines_alike {most : Nat} {collect otherCollect : BlockLines → Cursor → BlockLines}
    {lines others : BlockLines} (lineEnd : way.Alike True n c d)
    (same : SameBlock way aligned most lines others)
    (nextLines : ∀ m e f, n = m + 1 → way.Alike True m e f →
      SameBlock way aligned most (collect lines e) (otherCollect others f)) :
    SameBlock way aligned most (continueLines collect c lines)
      (continueLines otherCollect d others) := by
  -- Both sides end a line here and go on with the next one, or neither does.
  unfold continueLines
  rcases lineEnd.skipBreak? with ⟨left, right⟩ | ⟨m, _, _, less, left, right, nextLine⟩
  · rw [left, right]
    exact same
  · rw [left, right]
    exact nextLines m _ _ less nextLine

/-- The lines of a block scalar are collected alike. -/
theorem collectLines_alike {most : Nat} {lines others : BlockLines}
    (alike : way.Alike True n c d) (within : n ≤ most)
    (same : SameBlock way aligned most lines others) (margin : Nat) (indentation : Option Nat)
    (room : n ≤ bound) (otherRoom : n ≤ otherBound) :
    SameBlock way aligned most (collectLines margin bound indentation lines c)
      (collectLines margin otherBound indentation others d) := by
  -- By induction on the characters that are left: each line takes its terminator.
  induction n using Nat.strongRecOn generalizing bound otherBound indentation lines others c d with
  | ind n ih =>
    cases there : c.peek with
    | none =>
      have ended : c.atEnd = true := by
        unfold Cursor.peek at there
        rw [List.head?_eq_none_iff] at there
        rw [Cursor.atEnd, there]
        rfl
      have otherEnded := alike.atEnd.trans ended
      rw [collectLines_end (List.isEmpty_iff.mp ended),
        collectLines_end (List.isEmpty_iff.mp otherEnded)]
      exact same
    | some ch =>
      obtain ⟨m, rfl⟩ := alike.room_pos there
      obtain ⟨bound, rfl⟩ : ∃ more, bound = more + 1 := ⟨bound - 1, by omega⟩
      obtain ⟨otherBound, rfl⟩ : ∃ more, otherBound = more + 1 := ⟨otherBound - 1, by omega⟩
      have line : d.rest.takeWhile (fun ch => !isBreak ch) =
          c.rest.takeWhile fun ch => !isBreak ch := alike.lineOf_eq
      have lineEnd := alike.pass (alike.advance (Nat.le_refl (lineOf c.rest).length))
      -- Whatever lines were collected, the next line is collected alike.
      have goesOn : ∀ (indentation : Option Nat) {lines others : BlockLines},
          SameBlock way aligned most lines others →
          SameBlock way aligned most
            (continueLines (collectLines margin bound indentation)
              (c.advance (lineOf c.rest).length) lines)
            (continueLines (collectLines margin otherBound indentation)
              (d.advance (lineOf c.rest).length) others) := fun indentation _ _ same =>
        continueLines_alike lineEnd same fun k _ _ less nextLine =>
          ih k (by omega) nextLine (by omega) same _ (by omega) (by omega)
      -- A line with content is pushed without its indentation.
      have pushed : ∀ width, SameBlock way aligned most
          (lines.push ((lineOf c.rest).drop width) (c.advance (lineOf c.rest).length))
          (others.push ((lineOf c.rest).drop width) (d.advance (lineOf c.rest).length)) := by
        intro width
        refine ⟨?_, rfl, lineEnd.loosen.mono within same.stop.room⟩
        simp only [BlockLines.push, same.content, same.blanks]
      -- A blank line is only counted.
      have blank : SameBlock way aligned most { lines with blanks := lines.blanks + 1 }
          { others with blanks := others.blanks + 1 } :=
        ⟨same.content, by simp only [same.blanks], same.stop⟩
      unfold lineOf at goesOn pushed
      -- The first line with content sets the indentation, and a line left of it ends the scalar.
      rw [collectLines, collectLines, alike.atEnd, line,
        alike.atDocumentMarker (.inl trivial)]
      split
      · exact same
      · dsimp only
        split
        · split
          · split
            · exact goesOn _ (pushed _)
            · exact goesOn _ blank
          · exact goesOn _ blank
        · split
          · exact same
          · exact goesOn _ (pushed _)

/-- A block scalar is read alike. -/
theorem readBlockScalar_agree (alike : way.Alike aligned n c d) {ch : Char}
    (inside : isBreak ch = false) (there : c.peek = some ch) (margin : Nat) (room : n ≤ bound)
    (otherRoom : n ≤ otherBound) :
    way.Agree (Both way.Same (way.Alike aligned n)) (readBlockScalar bound margin c)
      (readBlockScalar otherBound margin d) := by
  -- No break is a mark, so the header ends with its line at the latest.
  have marks : ∀ ch, isBreak ch = true → isHeaderMark ch = false := by
    intro ch breaks
    rcases break_cases breaks with rfl | rfl <;> rfl
  have indicator := Abreast.next inside there ((alike.peek_iff inside).mpr there)
  have opened := alike.pass indicator
  have sameMarks := opened.takeWhile_eq marks
  unfold readBlockScalar
  extract_lets header headerEnd spaced commented indentation lines text otherHeader otherHeaderEnd
    otherSpaced otherCommented otherIndentation otherLines otherText
  have headerEnds : way.Alike aligned n headerEnd otherHeaderEnd :=
    opened.pass (opened.skipWhile marks)
  have blanks : Abreast headerEnd otherHeaderEnd spaced otherSpaced := headerEnds.skipInlineSpace
  have spacedAlike := headerEnds.pass blanks
  -- A comment behind a blank is skipped on both sides.
  have comments : way.Alike aligned n commented otherCommented :=
    spacedAlike.pass (.ite (and_congr (spacedAlike.peek_iff rfl) (moved_iff blanks))
      (fun _ => spacedAlike.skipLine) fun _ => .refl _ _)
  rw [comments.atEnd, comments.atBreak]
  refine .ite Iff.rfl (fun _ => .fail comments _) fun valid => ?_
  have sameHeader : otherHeader = header := sameMarks
  -- The header has the same marks, so the indentation and the style are the same.
  have sameIndentation : otherIndentation = indentation := by
    simp only [otherIndentation, indentation, sameHeader]
  -- Behind the header its line ends, or the text does.
  have collected : SameBlock way aligned n lines otherLines := by
    have begun : SameBlock way aligned n ⟨[], 0, headerEnd⟩ ⟨[], 0, otherHeaderEnd⟩ :=
      ⟨rfl, rfl, headerEnds⟩
    show SameBlock way aligned n (collectLines _ _ _ _ _) (collectLines _ _ _ _ _)
    rw [sameIndentation]
    cases comments.facing with
    | stop left right =>
      rw [Cursor.skipBreak, Cursor.skipBreak, Cursor.skipBreak?_of_end left,
        Cursor.skipBreak?_of_end right]
      exact (collectLines_end left _ _ _ _).symm ▸ (collectLines_end right _ _ _ _).symm ▸ begun
    | char plain left _ _ =>
      -- A header is followed by the end of its line.
      refine absurd ?_ valid
      have more : commented.atEnd = false := by
        rw [Cursor.atEnd, Cursor.rest_of_peek left]
        rfl
      have noBreak : commented.atBreak = false := by
        rw [Cursor.atBreak, left]
        exact plain
      rw [more, noBreak]
      rfl
    | line ends _ left _ _ =>
      obtain ⟨first, begins, breaks⟩ := ends.peek left
      exact collectLines_alike (comments.skipBreak_line begins breaks) (Nat.le_succ _) begun _ _
        (by omega) (by omega)
  -- The lines are joined in the same way.
  have sameText : otherText = text := by
    simp only [otherText, text, sameHeader, blockText, collected.content, collected.blanks,
      decide_eq_decide.mpr (alike.peek_iff (x := '>') rfl)]
  rw [sameText]
  exact .ok ⟨.scalar (alike.meets.span collected.stop.meets) rfl, collected.stop⟩

end SpecTrace.Yaml
