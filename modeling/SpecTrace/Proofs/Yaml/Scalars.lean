import SpecTrace.Proofs.Text.Cursor
import SpecTrace.Yaml.Block

/-! The readers of YAML scalars, keys and properties never go back. -/

namespace SpecTrace.Yaml

/-- Digits of an escape are passed. -/
theorem readHexEscape_left {length : Nat} {c after : Cursor} {decoded : Char}
    (read : readHexEscape length c = .ok (decoded, after)) : after.left ≤ c.left := by
  -- Both faults are excluded, and what is left passes the digits.
  unfold readHexEscape at read
  split at read
  · simp at read
  · split at read
    · simp at read
    · cases read
      exact Cursor.left_advance_le _ c

/-- What stands after a backslash is passed. -/
theorem readEscape_left {c after : Cursor} {decoded : Option Char}
    (read : readEscape c = .ok (decoded, after)) : after.left ≤ c.left := by
  unfold readEscape at read
  have one := Cursor.left_next_le c
  split at read
  · simp at read
  · split at read
    · -- An escaped line break takes the blanks behind it along.
      cases read
      have line := Cursor.left_skipBreak_le c
      have blanks := Cursor.left_skipWhile_le isInlineSpace c.skipBreak
      unfold Cursor.skipInlineSpace
      omega
    · split at read
      · obtain ⟨⟨_, behind⟩, digits, read⟩ := bind_eq_ok.mp read
        cases read
        exact Nat.le_trans (readHexEscape_left digits) one
      · split at read
        · cases read
          exact one
        · cases read

/-- A folded line break is passed. -/
theorem foldBreak_left (seen : List Char) (c : Cursor) : (foldBreak seen c).2.left ≤ c.left :=
  Nat.le_trans (Cursor.left_skipBlankLines_le c.skipBreak) (Cursor.left_skipBreak_le c)

/-- The rest of a quoted scalar is passed. -/
theorem readQuotedRest_left {began bound : Nat} {quote : Char} {seen : List Char}
    {c after : Cursor} {text : String}
    (read : readQuotedRest began quote bound seen c = .ok (text, after)) :
    after.left ≤ c.left := by
  -- Each step passes a character, an escape or the end of a line.
  induction bound generalizing seen c with
  | zero => cases read
  | succ bound ih =>
    unfold readQuotedRest at read
    have one := Cursor.left_next_le c
    split at read
    · cases read
    · split at read
      · split at read
        · -- A doubled quote stands for one.
          exact Nat.le_trans (ih read) (Cursor.left_advance_le 2 c)
        · cases read
          exact one
      · split at read
        · obtain ⟨⟨_, behind⟩, escape, read⟩ := bind_eq_ok.mp read
          have passed := readEscape_left escape
          have others := ih read
          omega
        · split at read
          · -- A line break is folded with the blank lines behind it.
            have folded := foldBreak_left seen c
            rcases lines : foldBreak seen c with ⟨text, behind⟩
            rw [lines] at folded read
            exact Nat.le_trans (ih read) folded
          · exact Nat.le_trans (ih read) one

/-- A quoted scalar is passed, and its opening quote does not stay. -/
theorem readQuoted_left {bound : Nat} {c after : Cursor} {text : String} {span : Span}
    (read : readQuoted bound c = .ok ((text, span), after)) : after.left ≤ c.next.left := by
  unfold readQuoted at read
  obtain ⟨⟨_, behind⟩, rest, read⟩ := bind_eq_ok.mp read
  cases read
  exact readQuotedRest_left rest

/-- The plain text on a line is passed. -/
theorem scanPlainLine_left (c : Cursor) : (scanPlainLine c).2.1.left ≤ c.left :=
  Cursor.left_advance_le _ c

/-- The lines that continue a plain scalar are passed. -/
theorem readContinuation_left {margin bound : Nat} {seen text : List Char} {c after : Cursor}
    (read : readContinuation margin bound seen c = .ok (text, after)) : after.left ≤ c.left := by
  -- By induction on the lines that are added.
  induction bound generalizing seen c with
  | zero =>
    cases read
    exact Nat.le_refl _
  | succ bound ih =>
    unfold readContinuation at read
    split at read
    · cases read
      exact Nat.le_refl _
    · rename_i nextLine skipped
      -- The line ends, blank lines follow, and then the next plain text.
      have blanks := Cursor.left_skipWhile_le isInlineSpace c
      have line := Cursor.left_skipBreak?_le skipped
      have lines := Cursor.left_skipBlankLines_le nextLine
      have plain := scanPlainLine_left nextLine.skipBlankLines.1
      unfold Cursor.skipInlineSpace at line
      rcases scanned : scanPlainLine nextLine.skipBlankLines.1 with ⟨more, lineEnd, stop⟩
      dsimp only at read
      rw [scanned] at plain read
      dsimp only at plain read
      split at read
      · cases read
        exact Nat.le_refl _
      · -- The scalar ends on this line, or goes on behind it.
        split at read
        · simp at read
        · cases read
          omega
        · have others := ih read
          omega

/-- A plain scalar is a scalar and is passed. -/
theorem readPlain_scalar {bound margin : Nat} {c after : Cursor} {node : Node}
    (read : readPlain bound margin c = .ok (node, after)) :
    after.left ≤ c.left ∧ ∃ value span, node = .scalar value span := by
  unfold readPlain at read
  have plain := scanPlainLine_left c
  rcases scanned : scanPlainLine c with ⟨first, lineEnd, stop⟩
  rw [scanned] at plain read
  dsimp only at plain read
  -- Only a line that ends without a mark may go on.
  split at read
  · obtain ⟨⟨text, behind⟩, rest, read⟩ := bind_eq_ok.mp read
    cases read
    exact ⟨Nat.le_trans (readContinuation_left rest) plain, _, _, rfl⟩
  · cases read
    exact ⟨plain, _, _, rfl⟩

/-- The lines of a block scalar end no earlier than where they are collected from. -/
theorem collectLines_left {margin bound most : Nat} {indentation : Option Nat}
    {lines : BlockLines} {c : Cursor} (stopped : lines.stop.left ≤ most) (here : c.left ≤ most) :
    (collectLines margin bound indentation lines c).stop.left ≤ most := by
  -- By induction on the lines, whatever indentation the first of them gives.
  induction bound generalizing indentation lines c with
  | zero => exact stopped
  | succ bound ih =>
    have lineEnd := Cursor.left_advance_le (c.rest.takeWhile fun ch => !isBreak ch).length c
    -- Whatever lines were collected, the next line is further on.
    have goesOn : ∀ (indentation : Option Nat) (lines : BlockLines), lines.stop.left ≤ most →
        (continueLines (collectLines margin bound indentation)
          (c.advance (c.rest.takeWhile fun ch => !isBreak ch).length) lines).stop.left ≤ most := by
      intro indentation lines stopped
      unfold continueLines
      split
      · rename_i nextLine skipped
        have next := Cursor.left_skipBreak?_le skipped
        exact ih stopped (by omega)
      · exact stopped
    unfold collectLines
    dsimp only
    split
    · exact stopped
    · split
      · split
        · split
          · -- The line belongs to the scalar and is the last one so far.
            exact goesOn _ _ (by dsimp only [BlockLines.push]; omega)
          · exact goesOn _ _ stopped
        · exact goesOn _ _ stopped
      · split
        · exact stopped
        · exact goesOn _ _ (by dsimp only [BlockLines.push]; omega)

/-- A block scalar is a scalar and is passed. -/
theorem readBlockScalar_scalar {bound margin : Nat} {c after : Cursor} {node : Node}
    (read : readBlockScalar bound margin c = .ok (node, after)) :
    after.left ≤ c.left ∧ ∃ value span, node = .scalar value span := by
  unfold readBlockScalar at read
  extract_lets begun headerEnd spaced commented indentation lines text at read
  have header : headerEnd.left ≤ c.left :=
    Nat.le_trans (Cursor.left_advance_le _ c.next) (Cursor.left_next_le c)
  have blanks : spaced.left ≤ headerEnd.left := Cursor.left_skipWhile_le _ headerEnd
  have comment : spaced.skipLine.left ≤ spaced.left := Cursor.left_skipWhile_le _ spaced
  -- A comment behind the header is skipped, if there is one.
  have kept : commented.left ≤ spaced.left := by
    by_cases marked : spaced.peek = some '#' ∧ headerEnd.offset < spaced.offset
    · rw [show commented = spaced.skipLine from if_pos marked]
      exact comment
    · have same : commented = spaced := if_neg marked
      exact Nat.le_of_eq (congrArg Cursor.left same)
  split at read
  · simp at read
  · cases read
    have line := Cursor.left_skipBreak_le commented
    exact ⟨collectLines_left header (by omega), _, _, rfl⟩

/-- A key is passed. -/
theorem readKeyText_left {bound : Nat} {c after : Cursor} {key : String} {span : Span}
    (read : readKeyText bound c = .ok ((key, span), after)) : after.left ≤ c.left := by
  -- A quoted key passes its quote; a plain one is scanned on its line, and the marks that begin no
  -- key are faults.
  unfold readKeyText at read
  split at read
  · exact Nat.le_trans (readQuoted_left read) (Cursor.left_next_le c)
  · exact Nat.le_trans (readQuoted_left read) (Cursor.left_next_le c)
  · simp at read
  · simp at read
  · simp at read
  · dsimp only at read
    split at read
    · simp at read
    · cases read
      exact scanPlainLine_left c

/-- An indicator is a character. -/
theorem left_next_of_indicator {c : Cursor} {indicator : Char}
    (there : c.atIndicator indicator = true) : c.next.left + 1 = c.left := by
  unfold Cursor.atIndicator at there
  simp only [Bool.and_eq_true, decide_eq_true_eq] at there
  exact Cursor.left_next_of_peek there.1

/-- A key is passed with its colon. -/
theorem readKey_left {bound : Nat} {c after : Cursor} {key : String} {span : Span}
    (read : readKey bound c = .ok ((key, span), after)) : after.left < c.left := by
  unfold readKey at read
  obtain ⟨⟨⟨_, _⟩, behind⟩, text, read⟩ := bind_eq_ok.mp read
  have passed := readKeyText_left text
  -- Blanks may stand between the key and its colon.
  have blanks := Cursor.left_skipWhile_le isInlineSpace behind
  dsimp only at read
  split at read
  · rename_i colon
    cases read
    have further := left_next_of_indicator colon
    unfold Cursor.skipInlineSpace at further ⊢
    omega
  · simp at read

/-- A scalar inside a flow collection takes at least one character. -/
theorem readFlowScalar_left {bound : Nat} {c after : Cursor} {value : Scalar} {span : Span}
    (read : readFlowScalar bound c = .ok ((value, span), after)) : after.left < c.left := by
  unfold readFlowScalar at read
  split at read
  · rename_i quoted
    obtain ⟨⟨⟨_, _⟩, behind⟩, string, read⟩ := bind_eq_ok.mp read
    cases read
    have passed := readQuoted_left string
    -- The quote is a character.
    unfold Cursor.atQuote at quoted
    simp only [Bool.or_eq_true, decide_eq_true_eq] at quoted
    rcases quoted with quote | quote
    · have opened := Cursor.left_next_of_peek quote
      omega
    · have opened := Cursor.left_next_of_peek quote
      omega
  · dsimp only at read
    split at read
    · simp at read
    · rename_i long
      cases read
      rw [Cursor.left_advance]
      -- The scan of an empty rest is empty.
      have there : 0 < c.left := by
        unfold Cursor.left
        cases rest : c.rest with
        | nil => simp [rest, scanFlow] at long
        | cons _ _ => simp
      omega

/-- Properties are passed. -/
theorem readProperties_left {inFlow : Bool} {bound : Nat} {p q : Properties} {c after : Cursor}
    (read : readProperties inFlow bound p c = .ok (q, after)) : after.left ≤ c.left := by
  -- By induction on the properties that are looked for.
  induction bound generalizing p c with
  | zero =>
    cases read
    exact Nat.le_refl _
  | succ bound ih =>
    unfold readProperties at read
    split at read
    · -- A property is passed with the layout behind it.
      obtain ⟨token, _, read⟩ := bind_eq_ok.mp read
      obtain ⟨_, _, read⟩ := bind_eq_ok.mp read
      have passed := Cursor.left_advance_le token.length c
      have layout := Cursor.left_skipLayout_le (c.advance token.length)
      rcases skipped : (c.advance token.length).skipLayout with ⟨behind, crossed⟩
      rw [skipped] at layout read
      have others := ih read
      dsimp only at layout
      omega
    · cases read
      exact Nat.le_refl _

end SpecTrace.Yaml
