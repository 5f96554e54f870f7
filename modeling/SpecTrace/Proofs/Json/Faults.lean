import SpecTrace.Proofs.Document.Faults

/-! The readers of JSON text find faults at boundaries only. -/

namespace SpecTrace.JsonText

variable {text : String} {c d : Cursor}

/-- Behind white space, a position is reached. -/
theorem reaches_skipSpace (c : Cursor) : c.Reaches (skipSpace c) :=
  c.reaches_skipWhile isSpace

/-- A character that is expected is passed. -/
theorem expect_advances (wanted : Char) : Advances .json text id (expect wanted) := by
  intro c stands
  unfold expect
  split
  · exact .ok c.reaches_next
  · exact .fail stands _

/-! ### Strings -/

/-- Digits of a unicode escape are passed. -/
theorem readCodeUnit_advances : Advances .json text Prod.snd readCodeUnit := by
  intro c stands
  unfold readCodeUnit
  split
  · exact .fail stands _
  · split
    · exact .fail stands _
    · -- The four digits are passed at once, and every fault is where the first one should be.
      exact .ok (c.reaches_advance _)

/-- A unicode escape is passed, with the second half of a pair. -/
theorem readUnicodeEscape_advances : Advances .json text Prod.snd readUnicodeEscape := by
  -- The first unit is read, and what it is decides whether there has to be a second one.
  intro c stands
  unfold readUnicodeEscape
  refine (readCodeUnit_advances c stands).bind ?_
  intro unit reached
  split
  rename_i first d
  have there := reached.standsIn stands
  split
  · split
    · exact .fail there _
    · -- The second half stands behind another mark.
      have marked := reached.trans (d.reaches_advance 2)
      refine (readCodeUnit_advances.onward stands marked).bind ?_
      intro unit behind
      split
      split
      · split
        · exact .ok behind
        · exact .fail (behind.standsIn stands) _
      · exact .fail (behind.standsIn stands) _
  · split
    · exact .ok reached
    · exact .fail there _

/-- What stands after a backslash is passed. -/
theorem readEscape_advances : Advances .json text Prod.snd readEscape := by
  intro c stands
  unfold readEscape
  split
  · exact .fail stands _
  · -- Behind the mark of a unicode escape stand its digits; every other escape is a single letter.
    exact readUnicodeEscape_advances.onward stands c.reaches_next
  · split
    · exact .ok c.reaches_next
    · exact .fail stands _

/-- The rest of a string is passed; if there is no end, the fault is where the string began. -/
theorem readStringRest_advances {began : Nat} (boundary : IsBoundary text began) (bound : Nat)
    (read : List Char) : Advances .json text Prod.snd (readStringRest began bound read) := by
  -- Each step passes a character or an escape.
  induction bound generalizing read with
  | zero =>
    intro c stands
    exact .fault boundary _
  | succ bound ih =>
    intro c stands
    have one := c.reaches_next
    unfold readStringRest
    split
    · -- The text is over, or it goes on with a quote, a backslash or any other character.
      exact .fault boundary _
    · exact .ok one
    · refine (readEscape_advances.onward stands one).bind ?_
      rintro ⟨decoded, d⟩ escaped
      exact (ih _).onward stands escaped
    · split
      · exact .fail stands _
      · exact (ih _).onward stands one

/-- A string is passed, and its span begins where it does. -/
theorem readString_advances (bound : Nat) (c : Cursor) (stands : c.StandsIn text.toList) :
    Concludes .json text (fun (string, after) => c.Reaches after ∧ string.2.start = c.offset)
      (readString bound c) := by
  unfold readString
  refine (expect_advances '"' c stands).bind ?_
  intro inside opened
  -- A string that has no end is blamed on its opening quote.
  refine ((readStringRest_advances stands.isBoundary bound []).onward stands opened).bind ?_
  rintro ⟨string, after⟩ reached
  exact .ok ⟨reached, rfl⟩

/-! ### Words and numbers -/

/-- A word is passed. -/
theorem readWord_advances (word : List Char) (value : Scalar) :
    Advances .json text Prod.snd (readWord word value) := by
  intro c stands
  unfold readWord
  split
  · exact .ok (c.reaches_advance _)
  · exact .fail stands _

/-- Digits are passed. -/
theorem expectDigits_advances (fault : SyntaxFault) :
    Advances .json text id (expectDigits fault) := by
  -- Both failures are at the cursor itself, and digits are passed from there.
  intro c stands
  unfold expectDigits
  split
  · split
    · exact .ok (c.reaches_skipWhile _)
    · exact .fail stands _
  · exact .fail stands _

/-- The digits before a point are passed. -/
theorem expectWhole_advances : Advances .json text id expectWhole := by
  intro c stands
  unfold expectWhole
  split
  · exact .ok c.reaches_next
  · exact expectDigits_advances _ c stands

/-- A point with its digits is passed, if there is one. -/
theorem expectFraction_advances : Advances .json text id expectFraction := by
  intro c stands
  unfold expectFraction
  split
  · exact (expectDigits_advances _).onward stands c.reaches_next
  · exact .ok (.refl c)

/-- An exponent is passed, if there is one. -/
theorem expectExponent_advances : Advances .json text id expectExponent := by
  intro c stands
  unfold expectExponent
  split
  · -- A sign may stand in front of the digits.
    have one := c.reaches_next
    dsimp only
    split
    · exact (expectDigits_advances _).onward stands (one.trans c.next.reaches_next)
    · exact (expectDigits_advances _).onward stands one
  · exact .ok (.refl c)

/-- A number is passed; if it is out of range, the fault is where it begins. -/
theorem readNumber_advances : Advances .json text Prod.snd readNumber := by
  -- The fault of a number out of range is at its beginning, all others are on the way.
  intro c stands
  have sign : c.Reaches (if c.peek = some '-' then c.next else c) := by
    split
    · exact c.reaches_next
    · exact .refl c
  unfold readNumber
  -- Each part is looked for where the one before it ends.
  refine (expectWhole_advances.onward stands sign).bind ?_
  intro whole reached
  refine (expectFraction_advances.onward stands reached).bind ?_
  intro fraction reached
  refine (expectExponent_advances.onward stands reached).bind ?_
  intro after reached
  dsimp only
  split
  · exact .ok reached
  · exact .fail stands _

/-! ### Arrays and objects -/

section

variable {value : Cursor → Reading (Node × Cursor)} (values : Advances .json text Prod.snd value)

include values

/-- The items of an array are passed if values are. -/
theorem readItems_advances (bound : Nat) :
    Advances .json text Prod.snd (readItems value bound) := by
  -- By induction on how many items are looked for.
  induction bound with
  | zero =>
    intro c stands
    exact .fail stands _
  | succ bound ih =>
    intro c stands
    unfold readItems
    refine (values.onward stands (reaches_skipSpace c)).bind ?_
    rintro ⟨item, d⟩ reached
    have spaced := reached.trans (reaches_skipSpace d)
    dsimp only
    split
    · -- More items follow a comma.
      refine (ih.onward stands (spaced.trans (Cursor.reaches_next _))).bind ?_
      rintro ⟨rest, after⟩ further
      exact .ok further
    · exact .ok (spaced.trans (Cursor.reaches_next _))
    · exact .fail (spaced.standsIn stands) _

/-- The members of an object are passed if values are. -/
theorem readMembers_advances (stringBound bound : Nat) (seen : List String) :
    Advances .json text Prod.snd (readMembers value stringBound bound seen) := by
  -- By induction on how many members are looked for, with the keys before them as they come.
  induction bound generalizing seen with
  | zero =>
    intro c stands
    exact .fail stands _
  | succ bound ih =>
    intro c stands
    have spaced := reaches_skipSpace c
    have there := spaced.standsIn stands
    unfold readMembers
    dsimp only
    split
    · exact .fail there _
    · refine (readString_advances stringBound _ there).bind ?_
      rintro ⟨⟨key, keySpan⟩, d⟩ ⟨named, start⟩
      -- A key that is repeated is blamed where it begins.
      have boundary : IsBoundary text keySpan.start := start ▸ there.isBoundary
      refine (Concludes.refuseRepeated boundary seen key).bind ?_
      intro _ _
      have behind := (spaced.trans named).trans (reaches_skipSpace d)
      refine ((expect_advances ':').onward stands behind).bind ?_
      intro colon reached
      refine (values.onward stands (reached.trans (reaches_skipSpace colon))).bind ?_
      rintro ⟨child, e⟩ reached
      have spaced := reached.trans (reaches_skipSpace e)
      dsimp only
      split
      · -- More members follow a comma.
        refine ((ih _).onward stands (spaced.trans (Cursor.reaches_next _))).bind ?_
        rintro ⟨rest, after⟩ further
        exact .ok further
      · exact .ok (spaced.trans (Cursor.reaches_next _))
      · exact .fail (spaced.standsIn stands) _

/-- An array is passed if values are. -/
theorem readArray_advances (bound : Nat) :
    Advances .json text Prod.snd (readArray value bound) := by
  intro c stands
  have inside := c.reaches_next.trans (reaches_skipSpace c.next)
  unfold readArray
  dsimp only
  split
  · -- An empty array ends behind its white space.
    exact .ok (inside.trans (Cursor.reaches_next _))
  · refine ((readItems_advances values bound).onward stands inside).bind ?_
    rintro ⟨items, after⟩ reached
    exact .ok reached

/-- An object is passed if values are. -/
theorem readObject_advances (bound : Nat) :
    Advances .json text Prod.snd (readObject value bound) := by
  intro c stands
  have inside := c.reaches_next.trans (reaches_skipSpace c.next)
  unfold readObject
  dsimp only
  split
  · -- An empty object ends behind its white space.
    exact .ok (inside.trans (Cursor.reaches_next _))
  · refine ((readMembers_advances values bound bound []).onward stands inside).bind ?_
    rintro ⟨entries, after⟩ reached
    exact .ok reached

end

/-- Every value is passed, whatever room there is for nesting. -/
theorem readValue_advances (bound room : Nat) :
    Advances .json text Prod.snd (readValue bound room) := by
  -- Inside a collection there is less room.
  induction room using Nat.strongRecOn with
  | ind room ih =>
    intro c stands
    unfold readValue
    -- The first character selects the reader, and each has been shown to advance.
    split
    · split
      · exact .fail stands _
      · exact readObject_advances (ih _ (Nat.lt_succ_self _)) bound c stands
    · split
      · exact .fail stands _
      · exact readArray_advances (ih _ (Nat.lt_succ_self _)) bound c stands
    · refine (readString_advances bound c stands).bind ?_
      rintro ⟨⟨string, span⟩, after⟩ ⟨reached, _⟩
      exact .ok reached
    · exact readWord_advances _ _ c stands
    · exact readWord_advances _ _ c stands
    · exact readWord_advances _ _ c stands
    · split
      · exact readNumber_advances c stands
      · exact .fail stands _
    · exact .fail stands _

/-- A text is refused at one of its boundaries. -/
theorem read_concludes (text : String) :
    Concludes .json text (fun _ => True) (read text.toList) := by
  have begun := Cursor.standsIn_start text.toList
  have mark := (Cursor.start text.toList).reaches_skipByteOrderMark
  unfold read
  refine ((readValue_advances _ _).onward begun (mark.trans (reaches_skipSpace _))).bind ?_
  rintro ⟨root, c⟩ reached
  have spaced := reached.trans (reaches_skipSpace c)
  dsimp only
  split
  · -- Behind the value and its white space the text has to be over.
    exact .ok trivial
  · exact .fail (spaced.standsIn begun) _

end SpecTrace.JsonText
