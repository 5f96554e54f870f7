import SpecTrace.Proofs.Document.Faults
import SpecTrace.Proofs.Document.Spans

/-! What the readers of YAML scalars, keys and properties span, and where they find faults. -/

namespace SpecTrace

/-- A span leads from a position to one that is reached from it. -/
structure Cursor.Spanned (c : Cursor) (span : Span) (d : Cursor) : Prop where
  reached : c.Reaches d
  span : span = ⟨c.offset, d.offset⟩

/-- A span between two positions of a text lies in it. -/
theorem Cursor.Spanned.fitsIn {text : String} {c d : Cursor} {span : Span}
    (spanned : c.Spanned span d) (stands : c.StandsIn text.toList) : span.FitsIn text := by
  rw [spanned.span]
  exact Span.fitsIn spanned.reached.offset_le stands.isBoundary
    (spanned.reached.standsIn stands).isBoundary

namespace Yaml

variable {text : String} {c d : Cursor}

/-! ### Quoted scalars -/

/-- Digits of an escape are passed. -/
theorem readHexEscape_advances (length : Nat) :
    Advances .yaml text Prod.snd (readHexEscape length) := by
  -- Both faults are at the cursor itself, and only what is read moves on.
  intro c stands
  unfold readHexEscape
  split
  · exact .fail stands _
  · split
    · exact .fail stands _
    · exact .ok (c.reaches_advance _)

/-- A character of which no escape is known is blamed at its last byte. -/
theorem blames_escape {letter : Char} (stands : c.StandsIn text.toList)
    (backslash : c.peek = some '\\') (escaped : c.next.peek = some letter) :
    SyntaxError.Blames .yaml text ⟨c.next.next.offset - 1, .invalidEscapeSequence⟩ := by
  have mark := Cursor.Passes.next backslash
  have passed := Cursor.Passes.next escaped
  have behind : c.next.next.offset = c.offset + 1 + letter.utf8Size := by
    rw [passed.offset, mark.offset, byteLength_cons, byteLength_cons]
    rfl
  have size := letter.utf8Size_pos
  -- Of a character with several bytes the last one is behind its boundary.
  by_cases several : 1 < letter.utf8Size
  · obtain ⟨front, whole, offset⟩ := stands
    refine .inr ⟨rfl, rfl, front, letter, c.next.next.rest, ?_, several, ?_⟩
    · rw [whole, mark.rest, passed.rest]
      rfl
    · dsimp only
      omega
  · -- A single byte begins where the character does.
    have here : c.next.next.offset - 1 = c.next.offset := by
      rw [behind, mark.offset, byteLength_cons, byteLength_nil]
      have one : Char.utf8Size '\\' = 1 := rfl
      omega
    rw [here]
    exact .inl (stands.pass mark).isBoundary

/-- What stands after a backslash is passed. -/
theorem readEscape_advances (stands : c.StandsIn text.toList) (backslash : c.peek = some '\\') :
    Concludes .yaml text (fun a => c.Reaches a.2) (readEscape c.next) := by
  have one := c.reaches_next
  have there := one.standsIn stands
  unfold readEscape
  split
  · exact .fail there _
  · rename_i letter escaped
    split
    · -- An escaped line break takes the blanks behind it along.
      have line := one.trans c.next.reaches_skipBreak
      exact .ok (line.trans (Cursor.reaches_skipWhile _ _))
    · split
      · refine ((readHexEscape_advances _).onward stands (one.trans c.next.reaches_next)).bind ?_
        rintro ⟨decoded, after⟩ reached
        exact .ok reached
      · split
        · exact .ok (one.trans c.next.reaches_next)
        · exact .error (blames_escape stands backslash escaped)

/-- A folded line break is passed. -/
theorem reaches_foldBreak (read : List Char) (c : Cursor) : c.Reaches (foldBreak read c).2 :=
  c.reaches_skipBreak.trans (Cursor.reaches_skipBlankLines _)

/-- The rest of a quoted scalar is passed; if there is no end, the fault is where it began. -/
theorem readQuotedRest_advances {began : Nat} (boundary : IsBoundary text began) (quote : Char)
    (bound : Nat) (read : List Char) :
    Advances .yaml text Prod.snd (readQuotedRest began quote bound read) := by
  -- Each step passes a character, an escape or the end of a line.
  induction bound generalizing read with
  | zero =>
    intro c stands
    exact .fault boundary _
  | succ bound ih =>
    intro c stands
    have one := c.reaches_next
    unfold readQuotedRest
    split
    · exact .fault boundary _
    · rename_i letter there
      split
      · split
        · -- A quote that is doubled stands for one.
          exact (ih _).onward stands (c.reaches_advance 2)
        · exact .ok one
      · split
        · rename_i backslash
          rw [backslash.1] at there
          refine (readEscape_advances stands there).bind ?_
          rintro ⟨decoded, d⟩ escaped
          exact (ih _).onward stands escaped
        · split
          · exact (ih _).onward stands (reaches_foldBreak read c)
          · exact (ih _).onward stands one

/-- A quoted scalar spans its quotes and what is between them. -/
theorem readQuoted_spans (bound : Nat) (stands : c.StandsIn text.toList) :
    Concludes .yaml text (fun (scalar, after) => c.Spanned scalar.2 after)
      (readQuoted bound c) := by
  -- The span begins at the quote, and what is read behind it goes on from there.
  unfold readQuoted
  refine ((readQuotedRest_advances stands.isBoundary _ bound []).onward stands
    c.reaches_next).bind ?_
  rintro ⟨string, after⟩ reached
  exact .ok ⟨reached, rfl⟩

/-! ### Plain scalars -/

/-- The plain text on a line is passed. -/
theorem reaches_scanPlainLine (c : Cursor) : c.Reaches (scanPlainLine c).2.1 :=
  c.reaches_advance _

/-- The lines that continue a plain scalar are passed. -/
theorem readContinuation_advances (margin bound : Nat) (read : List Char) :
    Advances .yaml text Prod.snd (readContinuation margin bound read) := by
  -- By induction on the lines that are added.
  induction bound generalizing read with
  | zero =>
    intro c stands
    exact .ok (.refl c)
  | succ bound ih =>
    intro c stands
    unfold readContinuation
    split
    · exact .ok (.refl c)
    · rename_i nextLine skipped
      -- The line ends, blank lines follow, and then the next plain text.
      have blanks := c.reaches_skipWhile isInlineSpace
      have line := (blanks.trans (Cursor.reaches_skipBreak? skipped)).trans
        nextLine.reaches_skipBlankLines
      have plain := line.trans (reaches_scanPlainLine nextLine.skipBlankLines.1)
      dsimp only
      split
      · exact .ok (.refl c)
      · split
        · exact .fail (line.standsIn stands) _
        · exact .ok plain
        · exact (ih _).onward stands plain

/-- A plain scalar spans its text. -/
theorem readPlain_spans (bound margin : Nat) (stands : c.StandsIn text.toList) :
    Concludes .yaml text
      (fun (node, after) => ∃ value span, node = .scalar value span ∧ c.Spanned span after)
      (readPlain bound margin c) := by
  have first := reaches_scanPlainLine c
  unfold readPlain
  dsimp only
  -- Only a line that ends without a mark may go on.
  split
  · refine ((readContinuation_advances margin bound _).onward stands first).bind ?_
    rintro ⟨text, after⟩ reached
    exact .ok ⟨_, _, rfl, reached, rfl⟩
  · exact .ok ⟨_, _, rfl, first, rfl⟩

/-! ### Block scalars -/

/-- The lines of a block scalar end where they are collected from, or further on. -/
theorem reaches_collectLines {margin bound : Nat} {indentation : Option Nat} {lines : BlockLines}
    (stopped : c.Reaches lines.stop) (here : c.Reaches d) :
    c.Reaches (collectLines margin bound indentation lines d).stop := by
  -- By induction on the lines, whatever indentation the first of them gives.
  induction bound generalizing indentation lines d with
  | zero => exact stopped
  | succ bound ih =>
    have lineEnd := here.trans (d.reaches_advance (d.rest.takeWhile fun ch => !isBreak ch).length)
    -- Whatever lines were collected, the next line is further on.
    have goesOn : ∀ (indentation : Option Nat) (lines : BlockLines), c.Reaches lines.stop →
        c.Reaches (continueLines (collectLines margin bound indentation)
          (d.advance (d.rest.takeWhile fun ch => !isBreak ch).length) lines).stop := by
      intro indentation lines stopped
      unfold continueLines
      split
      · rename_i nextLine skipped
        exact ih stopped (lineEnd.trans (Cursor.reaches_skipBreak? skipped))
      · exact stopped
    unfold collectLines
    dsimp only
    split
    · exact stopped
    · split
      · split
        · split
          · -- The line belongs to the scalar and is the last one so far.
            exact goesOn _ _ lineEnd
          · exact goesOn _ _ stopped
        · exact goesOn _ _ stopped
      · split
        · exact stopped
        · exact goesOn _ _ lineEnd

/-- A block scalar spans its header and its lines. -/
theorem readBlockScalar_spans (bound margin : Nat) (stands : c.StandsIn text.toList) :
    Concludes .yaml text
      (fun (node, after) => ∃ value span, node = .scalar value span ∧ c.Spanned span after)
      (readBlockScalar bound margin c) := by
  unfold readBlockScalar
  extract_lets begun headerEnd spaced commented indentation lines text
  have header : c.Reaches headerEnd := c.reaches_next.trans (Cursor.reaches_advance _ _)
  have blanks : c.Reaches spaced := header.trans (Cursor.reaches_skipWhile _ _)
  -- A comment behind the header is skipped, if there is one.
  have comment : c.Reaches commented := by
    unfold commented
    split
    · exact blanks.trans (Cursor.reaches_skipWhile _ _)
    · exact blanks
  split
  · exact .fail (comment.standsIn stands) _
  · have line := comment.trans commented.reaches_skipBreak
    exact .ok ⟨_, _, rfl, reaches_collectLines header line, rfl⟩

/-! ### Keys -/

/-- The text of a key is spanned. -/
theorem readKeyText_spans (bound : Nat) (stands : c.StandsIn text.toList) :
    Concludes .yaml text (fun (key, after) => c.Spanned key.2 after) (readKeyText bound c) := by
  unfold readKeyText
  split
  · -- A key is quoted in one of two ways, or plain; collections and question marks are refused.
    exact readQuoted_spans bound stands
  · exact readQuoted_spans bound stands
  · exact .fail stands _
  · exact .fail stands _
  · exact .fail stands _
  · dsimp only
    split
    · exact .fail stands _
    · exact .ok ⟨reaches_scanPlainLine c, rfl⟩

/-- A key is spanned and passed with its colon. -/
theorem readKey_spans (bound : Nat) (stands : c.StandsIn text.toList) :
    Concludes .yaml text (fun (key, after) => ∃ d, c.Spanned key.2 d ∧ d.Reaches after)
      (readKey bound c) := by
  unfold readKey
  refine (readKeyText_spans bound stands).bind ?_
  rintro ⟨⟨key, span⟩, d⟩ spanned
  -- Blanks may stand between the key and its colon.
  have blanks := d.reaches_skipWhile isInlineSpace
  dsimp only
  split
  · exact .ok ⟨d, spanned, blanks.trans (Cursor.reaches_next _)⟩
  · exact .fail ((spanned.reached.trans blanks).standsIn stands) _

/-- Looking for a key moves nowhere. -/
theorem atMappingKey_concludes (bound : Nat) (stands : c.StandsIn text.toList) :
    Concludes .yaml text (fun _ => True) (atMappingKey bound c) := by
  -- A quoted key is read for the colon behind it, and only a fault in it is passed on.
  unfold atMappingKey
  split
  · refine (readQuoted_spans bound stands).bind ?_
    rintro ⟨scalar, after⟩ _
    exact .ok trivial
  · exact .ok trivial

/-- A scalar in a flow collection is spanned. -/
theorem readFlowScalar_spans (bound : Nat) (stands : c.StandsIn text.toList) :
    Concludes .yaml text (fun (scalar, after) => c.Spanned scalar.2 after)
      (readFlowScalar bound c) := by
  -- A scalar is quoted, or it is the run up to the next mark, which must not be empty.
  unfold readFlowScalar
  split
  · refine (readQuoted_spans bound stands).bind ?_
    rintro ⟨⟨string, span⟩, after⟩ spanned
    exact .ok spanned
  · dsimp only
    split
    · exact .fail stands _
    · exact .ok ⟨c.reaches_advance _, rfl⟩

/-- What may not stand behind a value is blamed where it stands. -/
theorem expectLineEnd_concludes (stands : c.StandsIn text.toList) :
    Concludes .yaml text (fun _ => True) (expectLineEnd c) := by
  -- The blanks are skipped first, and the fault stands behind them.
  unfold expectLineEnd
  dsimp only
  split
  · exact .ok trivial
  · split
    · exact .ok trivial
    · exact .fail ((c.reaches_skipWhile _).standsIn stands) _

/-! ### Properties -/

/-- The tag among the properties was written at a boundary. -/
def Properties.FitIn (text : String) (p : Properties) : Prop :=
  ∀ tag ∈ p.tag, IsBoundary text tag.2

/-- Without a tag there is nothing to fit. -/
theorem Properties.fitIn_none : Properties.none.FitIn text := by
  intro tag absent
  cases absent

/-- The token of a property is read without moving on. -/
theorem propertyToken_concludes (inFlow : Bool) (stands : c.StandsIn text.toList) :
    Concludes .yaml text (fun _ => True) (propertyToken inFlow c) := by
  -- The only fault is at the cursor itself.
  unfold propertyToken
  split
  · split
    · exact .ok trivial
    · exact .fail stands _
  · exact .ok trivial

/-- A property is added at a boundary. -/
theorem Properties.add_fitIn {p : Properties} {offset : Nat} (fit : p.FitIn text)
    (token : List Char) (boundary : IsBoundary text offset) :
    Concludes .yaml text (Properties.FitIn text) (p.add token offset) := by
  unfold Properties.add
  split
  · split
    · exact .fault boundary _
    · split
      · exact .fault boundary _
      · exact .ok fit
  · split
    · exact .fault boundary _
    · refine .ok ?_
      -- The tag is recorded at the offset of its token.
      rintro tag ⟨⟩
      exact boundary

/-- Properties are passed with the layout behind them. -/
theorem readProperties_fitIn (inFlow : Bool) (bound : Nat) {p : Properties} (fit : p.FitIn text)
    (stands : c.StandsIn text.toList) :
    Concludes .yaml text (fun (q, after) => q.FitIn text ∧ c.Reaches after)
      (readProperties inFlow bound p c) := by
  -- By induction on the properties, of which there are few.
  induction bound generalizing p c with
  | zero => exact .ok ⟨fit, .refl c⟩
  | succ bound ih =>
    unfold readProperties
    split
    · refine (propertyToken_concludes inFlow stands).bind ?_
      intro token _
      refine (Properties.add_fitIn fit token stands.isBoundary).bind ?_
      intro q fit
      have passed := (c.reaches_advance token.length).trans (Cursor.reaches_skipLayout _)
      -- Whether a line was crossed does not matter to the tag.
      have fitAll : Properties.FitIn text
          { q with crossed := q.crossed || (c.advance token.length).skipLayout.2 } := fit
      refine (ih fitAll (passed.standsIn stands)).imp ?_
      rintro ⟨all, after⟩ ⟨fit, reached⟩
      exact ⟨fit, passed.trans reached⟩
    · exact .ok ⟨fit, .refl c⟩

end Yaml

end SpecTrace
