import SpecTrace.Document.JsonText
import SpecTrace.Proofs.Text.Cursor

/-! What reading JSON text keeps to: a tree has no more nodes than its text has characters, and no
mapping in it repeats a key. -/

namespace SpecTrace

/-- No mapping of a tree repeats a key. -/
inductive Node.Distinct : Node → Prop
  | scalar {value span} : Distinct (.scalar value span)
  | sequence {items span} (below : ∀ item ∈ items, Distinct item) :
    Distinct (.sequence items span)
  | mapping {entries span} (keys : (entries.map Entry.key).Nodup)
    (below : ∀ entry ∈ entries, Distinct entry.value) :
    Distinct (.mapping entries span)

/-- A key that is not refused was not seen before. -/
theorem refuseRepeated_ok {seen : List String} {key : String} {offset : Nat} {done : Unit}
    (accepted : refuseRepeated seen key offset = .ok done) : key ∉ seen := by
  unfold refuseRepeated at accepted
  split at accepted
  · cases accepted
  · rename_i new
    simpa using new

/-- Entries with keys of their own, none of them among those seen before. -/
structure FreshEntries (seen : List String) (entries : List (Entry Node)) : Prop where
  keys : (entries.map Entry.key).Nodup
  fresh : ∀ entry ∈ entries, entry.key ∉ seen
  below : ∀ entry ∈ entries, entry.value.Distinct

/-- No entries repeat nothing. -/
theorem FreshEntries.nil (seen : List String) : FreshEntries seen [] :=
  ⟨List.nodup_nil, by simp, by simp⟩

/-- An entry with a new key is put in front of entries that were read with its key as seen. -/
theorem FreshEntries.cons {seen : List String} {entry : Entry Node} {rest : List (Entry Node)}
    (new : entry.key ∉ seen) (below : entry.value.Distinct)
    (others : FreshEntries (entry.key :: seen) rest) : FreshEntries seen (entry :: rest) := by
  refine ⟨?_, ?_, ?_⟩
  · refine List.nodup_cons.mpr ⟨?_, others.keys⟩
    intro repeated
    -- A repetition would have been seen.
    obtain ⟨later, member, same⟩ := List.mem_map.mp repeated
    exact others.fresh later member (by simp [same])
  · -- What was seen before is seen behind this entry as well.
    refine List.forall_mem_cons.mpr ⟨new, fun later member known => ?_⟩
    exact others.fresh later member (List.mem_cons_of_mem _ known)
  · exact List.forall_mem_cons.mpr ⟨below, others.below⟩

/-- A single entry with a new key repeats nothing. -/
theorem FreshEntries.single {seen : List String} {entry : Entry Node}
    (new : entry.key ∉ seen) (below : entry.value.Distinct) : FreshEntries seen [entry] :=
  .cons new below (.nil _)

/-- Entries with keys of their own make a mapping that repeats none. -/
theorem FreshEntries.distinct {seen : List String} {entries : List (Entry Node)}
    (fresh : FreshEntries seen entries) (span : Span) : (Node.mapping entries span).Distinct :=
  .mapping fresh.keys fresh.below

namespace JsonText

/-- A node that was read costs the characters it was read from, or one. -/
structure Yields (c : Cursor) (node : Node) (after : Cursor) : Prop where
  size : node.count + after.left ≤ c.left + 1
  distinct : node.Distinct

/-- Every node that a reader answers was paid for. -/
def Pays (value : Cursor → Reading (Node × Cursor)) : Prop :=
  ∀ c node after, value c = .ok (node, after) → Yields c node after

/-- A scalar costs one. -/
theorem yields_scalar {c after : Cursor} (value : Scalar) (span : Span)
    (moved : after.left ≤ c.left) : Yields c (.scalar value span) after := by
  refine ⟨?_, .scalar⟩
  simp only [Node.count]
  omega

/-- A character that has to come next is passed. -/
theorem expect_left {wanted : Char} {c after : Cursor} (read : expect wanted c = .ok after) :
    after.left + 1 = c.left := by
  -- It succeeds only in the branch in which the character is there.
  unfold expect at read
  split at read
  · rename_i there
    cases read
    exact Cursor.left_next_of_peek there
  · simp at read

/-- Digits of a unicode escape are passed. -/
theorem readCodeUnit_left {c after : Cursor} {unit : Nat}
    (read : readCodeUnit c = .ok (unit, after)) : after.left ≤ c.left := by
  unfold readCodeUnit at read
  split at read
  · simp at read
  · split at read
    · simp at read
    · -- Four digits are passed at once.
      cases read
      exact Cursor.left_advance_le _ c

/-- A unicode escape is passed. -/
theorem readUnicodeEscape_left {c after : Cursor} {decoded : Char}
    (read : readUnicodeEscape c = .ok (decoded, after)) : after.left ≤ c.left := by
  -- A code unit is passed first. It may be all there is, or the first half of a pair.
  unfold readUnicodeEscape at read
  obtain ⟨unit, digits, read⟩ := bind_eq_ok.mp read
  split at read
  rename_i first behind
  have passed := readCodeUnit_left digits
  split at read
  · -- A high surrogate is followed by a second escape.
    split at read
    · simp at read
    · obtain ⟨unit, more, read⟩ := bind_eq_ok.mp read
      split at read
      rename_i second later
      have escape := Cursor.left_advance_le 2 behind
      have further := readCodeUnit_left more
      split at read
      · split at read
        · simp only [Except.ok.injEq, Prod.mk.injEq] at read
          obtain ⟨_, rfl⟩ := read
          omega
        · simp at read
      · simp at read
  · split at read
    · simp only [Except.ok.injEq, Prod.mk.injEq] at read
      obtain ⟨_, rfl⟩ := read
      exact passed
    · simp at read

/-- What stands after a backslash is passed. -/
theorem readEscape_left {c after : Cursor} {decoded : Char}
    (read : readEscape c = .ok (decoded, after)) : after.left ≤ c.left := by
  unfold readEscape at read
  have one := Cursor.left_next_le c
  split at read
  · simp at read
  · -- The letter stands before the four digits.
    exact Nat.le_trans (readUnicodeEscape_left read) one
  · split at read
    · cases read
      exact one
    · simp at read

/-- The rest of a string is passed. -/
theorem readStringRest_left {began bound : Nat} {seen : List Char} {c after : Cursor}
    {text : String} (read : readStringRest began bound seen c = .ok (text, after)) :
    after.left ≤ c.left := by
  -- Each character of the string is one step further.
  induction bound generalizing seen c with
  | zero => simp [readStringRest] at read
  | succ bound ih =>
    unfold readStringRest at read
    have one := Cursor.left_next_le c
    split at read
    · cases read
    · cases read
      exact one
    · -- An escape takes its backslash and what stands behind it.
      obtain ⟨⟨decoded, behind⟩, escape, read⟩ := bind_eq_ok.mp read
      have passed := readEscape_left escape
      have others := ih read
      omega
    · split at read
      · simp at read
      · have others := ih read
        omega

/-- A string is passed with its opening quote. -/
theorem readString_left {bound : Nat} {c after : Cursor} {text : String} {span : Span}
    (read : readString bound c = .ok ((text, span), after)) : after.left < c.left := by
  -- The quote is passed first, and what is read behind it leaves no more than it was given.
  unfold readString at read
  obtain ⟨inside, quote, read⟩ := bind_eq_ok.mp read
  obtain ⟨⟨_, behind⟩, string, read⟩ := bind_eq_ok.mp read
  cases read
  have opened := expect_left quote
  have passed := readStringRest_left string
  omega

/-- Digits are passed. -/
theorem expectDigits_left {fault : SyntaxFault} {c after : Cursor}
    (read : expectDigits fault c = .ok after) : after.left ≤ c.left := by
  -- Of the three branches only the one with a digit in front succeeds.
  unfold expectDigits at read
  split at read
  · split at read
    · cases read
      exact Cursor.left_skipWhile_le _ c
    · simp at read
  · simp at read

/-- The digits before a point are passed. -/
theorem expectWhole_left {c after : Cursor} (read : expectWhole c = .ok after) :
    after.left ≤ c.left := by
  unfold expectWhole at read
  split at read
  · cases read
    exact Cursor.left_next_le c
  · exact expectDigits_left read

/-- A fraction is passed. -/
theorem expectFraction_left {c after : Cursor} (read : expectFraction c = .ok after) :
    after.left ≤ c.left := by
  unfold expectFraction at read
  split at read
  · exact Nat.le_trans (expectDigits_left read) (Cursor.left_next_le c)
  · cases read
    exact Nat.le_refl _

/-- An exponent is passed. -/
theorem expectExponent_left {c after : Cursor} (read : expectExponent c = .ok after) :
    after.left ≤ c.left := by
  unfold expectExponent at read
  have mark := Cursor.left_next_le c
  have sign := Cursor.left_next_le c.next
  split at read
  · -- A sign may stand between the mark and the digits.
    have digits := expectDigits_left read
    split at digits <;> omega
  · cases read
    exact Nat.le_refl _

/-- A number is paid for. -/
theorem readNumber_pays : Pays readNumber := by
  -- The parts of a number are passed one after the other, and the whole part is not empty.
  intro c node after read
  unfold readNumber at read
  obtain ⟨whole, first, read⟩ := bind_eq_ok.mp read
  obtain ⟨fraction, second, read⟩ := bind_eq_ok.mp read
  obtain ⟨exponent, third, read⟩ := bind_eq_ok.mp read
  have sign := Cursor.left_next_le c
  have digits := expectWhole_left first
  have point := expectFraction_left second
  have mark := expectExponent_left third
  -- A sign may stand in front.
  have unsigned : whole.left ≤ c.left := by
    split at digits <;> omega
  dsimp only at read
  split at read
  · cases read
    exact yields_scalar _ _ (by omega)
  · simp at read

/-- A word is paid for. -/
theorem readWord_pays (word : List Char) (value : Scalar) : Pays (readWord word value) := by
  intro c node after read
  unfold readWord at read
  split at read
  · cases read
    exact yields_scalar _ _ (Cursor.left_advance_le _ c)
  · simp at read

/-- Items are paid for by what separates and closes them. -/
theorem readItems_pays {value : Cursor → Reading (Node × Cursor)} (pays : Pays value)
    {bound : Nat} {c after : Cursor} {items : List Node}
    (read : readItems value bound c = .ok (items, after)) :
    Node.countItems items + after.left ≤ c.left ∧ ∀ item ∈ items, item.Distinct := by
  -- The bound is that of the reader, which spends one of it on each item.
  induction bound generalizing c items after with
  | zero => simp [readItems] at read
  | succ bound ih =>
    unfold readItems at read
    obtain ⟨⟨item, behind⟩, first, read⟩ := bind_eq_ok.mp read
    obtain ⟨size, distinct⟩ := pays _ _ _ first
    -- Space may stand around the item.
    have before := Cursor.left_skipWhile_le isSpace c
    have between := Cursor.left_skipWhile_le isSpace behind
    unfold skipSpace at size read
    dsimp only at read
    split at read
    · -- A comma pays for the item, and more items follow.
      rename_i comma
      obtain ⟨⟨rest, last⟩, others, read⟩ := bind_eq_ok.mp read
      obtain ⟨sizes, each⟩ := ih others
      cases read
      have passed := Cursor.left_next_of_peek comma
      refine ⟨?_, List.forall_mem_cons.mpr ⟨distinct, each⟩⟩
      simp only [Node.countItems]
      omega
    · -- The closing bracket pays for the last item.
      rename_i bracket
      cases read
      have passed := Cursor.left_next_of_peek bracket
      refine ⟨?_, by simpa using distinct⟩
      simp only [Node.countItems]
      omega
    · simp at read

/-- Members are paid for by their keys, and repeat none. -/
theorem readMembers_pays {value : Cursor → Reading (Node × Cursor)} (pays : Pays value)
    {stringBound bound : Nat} {seen : List String} {c after : Cursor}
    {entries : List (Entry Node)}
    (read : readMembers value stringBound bound seen c = .ok (entries, after)) :
    Node.countEntries entries + after.left ≤ c.left ∧ FreshEntries seen entries := by
  -- The keys seen so far are general, since each member adds its own for those behind it.
  induction bound generalizing seen c entries after with
  | zero => simp [readMembers] at read
  | succ bound ih =>
    unfold readMembers at read
    have space := Cursor.left_skipWhile_le isSpace c
    dsimp only at read
    split at read
    · simp at read
    · obtain ⟨⟨⟨key, keySpan⟩, keyEnd⟩, string, read⟩ := bind_eq_ok.mp read
      obtain ⟨_, accepted, read⟩ := bind_eq_ok.mp read
      obtain ⟨colon, expected, read⟩ := bind_eq_ok.mp read
      obtain ⟨⟨child, behind⟩, first, read⟩ := bind_eq_ok.mp read
      have new := refuseRepeated_ok accepted
      obtain ⟨size, distinct⟩ := pays _ _ _ first
      -- The key, the colon and the child follow one another, with space between them.
      have named := readString_left string
      have spaced := Cursor.left_skipWhile_le isSpace keyEnd
      have passed := expect_left expected
      have before := Cursor.left_skipWhile_le isSpace colon
      have between := Cursor.left_skipWhile_le isSpace behind
      unfold skipSpace at named passed size read
      dsimp only at passed read
      split at read
      · -- More members follow, and they know this key.
        rename_i comma
        obtain ⟨⟨rest, last⟩, others, read⟩ := bind_eq_ok.mp read
        obtain ⟨sizes, fresh⟩ := ih others
        cases read
        have further := Cursor.left_next_of_peek comma
        refine ⟨?_, .cons new distinct fresh⟩
        simp only [Node.countEntries]
        omega
      · -- The brace pays for the last member, which stands alone.
        rename_i brace
        cases read
        have further := Cursor.left_next_of_peek brace
        refine ⟨?_, .single new distinct⟩
        simp only [Node.countEntries]
        omega
      · simp at read

/-- An array is paid for if its items are. -/
theorem readArray_pays {value : Cursor → Reading (Node × Cursor)} (pays : Pays value)
    {bound : Nat} {c : Cursor} (opened : c.peek = some '[') {node : Node} {after : Cursor}
    (read : readArray value bound c = .ok (node, after)) : Yields c node after := by
  unfold readArray at read
  -- The opening bracket pays for the array itself.
  have bracket := Cursor.left_next_of_peek opened
  have space := Cursor.left_skipWhile_le isSpace c.next
  unfold skipSpace at read
  dsimp only at read
  split at read
  · -- An empty array is paid for by its bracket alone.
    cases read
    have closed := Cursor.left_next_le (c.next.skipWhile isSpace)
    refine ⟨?_, .sequence (by simp)⟩
    simp only [Node.count, Node.countItems]
    omega
  · -- The items pay for themselves up to the closing bracket.
    obtain ⟨⟨items, behind⟩, inside, read⟩ := bind_eq_ok.mp read
    cases read
    obtain ⟨sizes, each⟩ := readItems_pays pays inside
    refine ⟨?_, .sequence each⟩
    simp only [Node.count]
    omega

/-- An object is paid for if its values are. -/
theorem readObject_pays {value : Cursor → Reading (Node × Cursor)} (pays : Pays value)
    {bound : Nat} {c : Cursor} (opened : c.peek = some '\x7b') {node : Node} {after : Cursor}
    (read : readObject value bound c = .ok (node, after)) : Yields c node after := by
  unfold readObject at read
  -- The opening brace pays for the object itself.
  have brace := Cursor.left_next_of_peek opened
  have space := Cursor.left_skipWhile_le isSpace c.next
  unfold skipSpace at read
  dsimp only at read
  split at read
  · -- An empty object is paid for by its brace alone.
    cases read
    have closed := Cursor.left_next_le (c.next.skipWhile isSpace)
    refine ⟨?_, (FreshEntries.nil []).distinct _⟩
    simp only [Node.count, Node.countEntries]
    omega
  · obtain ⟨⟨entries, behind⟩, inside, read⟩ := bind_eq_ok.mp read
    cases read
    obtain ⟨sizes, fresh⟩ := readMembers_pays pays inside
    refine ⟨?_, fresh.distinct _⟩
    simp only [Node.count]
    omega

/-- A value that opens no collection is paid for. -/
theorem readValue_leaf_pays {bound room : Nat} {c after : Cursor} {node : Node}
    (object : c.peek ≠ some '\x7b') (array : c.peek ≠ some '[')
    (read : readValue bound room c = .ok (node, after)) : Yields c node after := by
  -- The first character decides; the two that open a collection are excluded, and every other value
  -- is a scalar that takes a character at least.
  unfold readValue at read
  split at read
  · rename_i opened
    exact absurd opened object
  · rename_i opened
    exact absurd opened array
  · obtain ⟨⟨⟨text, span⟩, behind⟩, string, read⟩ := bind_eq_ok.mp read
    cases read
    exact yields_scalar _ _ (Nat.le_of_lt (readString_left string))
  · exact readWord_pays _ _ _ _ _ read
  · exact readWord_pays _ _ _ _ _ read
  · exact readWord_pays _ _ _ _ _ read
  · split at read
    · exact readNumber_pays _ _ _ read
    · simp at read
  · simp at read

/-- Every value is paid for, whatever room there is for nesting. -/
theorem readValue_pays (bound room : Nat) : Pays (readValue bound room) := by
  induction room with
  | zero =>
    -- Without room, collections are refused.
    intro c node after read
    by_cases object : c.peek = some '\x7b'
    · simp [readValue, object] at read
    · by_cases array : c.peek = some '['
      · simp [readValue, array] at read
      · exact readValue_leaf_pays object array read
  | succ room ih =>
    intro c node after read
    by_cases object : c.peek = some '\x7b'
    · -- What is inside has one level of room less, for which the induction speaks.
      simp only [readValue, object] at read
      exact readObject_pays ih object read
    · by_cases array : c.peek = some '['
      · simp only [readValue, array] at read
        exact readArray_pays ih array read
      · exact readValue_leaf_pays object array read

/-- A document has at most one node more than its text has characters, and repeats no key. -/
theorem read_pays {text : List Char} {root : Node} (answered : read text = .ok root) :
    root.count ≤ text.length + 1 ∧ root.Distinct := by
  unfold read at answered
  obtain ⟨⟨node, behind⟩, value, answered⟩ := bind_eq_ok.mp answered
  obtain ⟨size, distinct⟩ := readValue_pays _ _ _ _ _ value
  have mark := Cursor.left_skipByteOrderMark_le (Cursor.start text)
  have space := Cursor.left_skipWhile_le isSpace (Cursor.start text).skipByteOrderMark
  have whole : (Cursor.start text).left = text.length := rfl
  unfold skipSpace at size
  dsimp only at answered
  -- Only space may be left.
  split at answered
  · cases answered
    exact ⟨by omega, distinct⟩
  · simp at answered

end JsonText

end SpecTrace
