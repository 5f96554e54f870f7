import SpecTrace.Proofs.Json.Strings

/-! Words, numbers and strings are read exactly where the grammar has one. -/

namespace SpecTrace

open Grammar

namespace JsonText

variable {c d after : Cursor} {text : List Char}

/-- A character that a number may go on with. -/
def inNumber (c : Char) : Bool :=
  c.isDigit || c = '.' || c = 'e' || c = 'E'

/-- Behind a number there is no further digit. -/
theorem stops_isDigit {tail : List Char} (stops : Stops inNumber tail) :
    Stops Char.isDigit tail := by
  intro ch first
  have other := stops ch first
  simp only [inNumber, Bool.or_eq_false_iff] at other
  exact other.1.1.1

/-- Behind a number there is neither a point nor the mark of an exponent. -/
theorem stops_marks {tail : List Char} (stops : Stops inNumber tail) :
    tail.head? ≠ some '.' ∧ tail.head? ≠ some 'e' ∧ tail.head? ≠ some 'E' := by
  -- Each of the three would go on with the number.
  refine ⟨?_, ?_, ?_⟩ <;>
  · intro first
    exact absurd (stops _ first) (by decide)

/-! ### Digits -/

/-- Digits are passed up to the first other character. -/
theorem expectDigits_iff {fault : SyntaxFault} :
    expectDigits fault c = .ok after ↔
      ∃ text, c.Passes text after ∧ IsDigits text ∧ Stops Char.isDigit after.rest := by
  unfold expectDigits
  constructor
  · intro read
    split at read
    -- One digit is looked for, and then all that follow are skipped.
    · rename_i digit there
      split at read
      · rename_i isDigit
        cases read
        refine ⟨_, c.passes_skipWhile Char.isDigit, ⟨?_, ?_⟩, fun ch => c.peek_skipWhile⟩
        · -- The first character is a digit.
          rw [(Cursor.Passes.next there).rest]
          simp [isDigit]
        · exact List.all_eq_true.mp List.all_takeWhile
      · simp at read
    · simp at read
  · rintro ⟨text, passed, digits, stops⟩
    -- There is a first digit, and what follows the last one stops the run.
    cases text with
    | nil => exact absurd rfl digits.1
    | cons first rest =>
      rw [passed.peek]
      simp only [digits.2 first List.mem_cons_self, if_true]
      rw [passed.skipWhile digits.2 stops]

/-- The whole part of a number is passed; behind a lone zero anything may stand. -/
theorem expectWhole_iff :
    expectWhole c = .ok after ↔
      ∃ text, c.Passes text after ∧ Whole text ∧
        (text = ['0'] ∨ Stops Char.isDigit after.rest) := by
  -- Reading goes from the branch to the grammar, and the other direction picks the branch by the
  -- first digit.
  unfold expectWhole
  constructor
  · intro read
    split at read
    -- A zero is the whole part by itself; other digits must not begin with one.
    · rename_i zero
      cases read
      exact ⟨['0'], .next zero, .zero, Or.inl rfl⟩
    · rename_i notZero
      obtain ⟨text, passed, digits, stops⟩ := expectDigits_iff.mp read
      refine ⟨text, passed, ?_, Or.inr stops⟩
      cases text with
      | nil => exact absurd rfl digits.1
      | cons first rest =>
        refine .positive ?_ digits
        rintro rfl
        exact notZero passed.peek
  · rintro ⟨text, passed, whole, stops⟩
    -- A zero is read alone, whatever follows it; otherwise the first digit leads on to the others.
    cases whole with
    | zero =>
      rw [if_pos passed.peek, passed.tail.eq_of_nil]
    | @positive first rest leads digits =>
      have notZero : c.peek ≠ some '0' := by
        rw [passed.peek]
        simpa using leads
      rw [if_neg notZero]
      refine expectDigits_iff.mpr ⟨_, passed, digits, stops.resolve_left ?_⟩
      intro same
      exact leads (List.cons.inj same).1

/-- A fraction is passed if there is a point. -/
theorem expectFraction_iff :
    expectFraction c = .ok after ↔
      ∃ point fraction, c.Passes point after ∧ Fraction point fraction ∧
        (point = [] → c.peek ≠ some '.') ∧ (point ≠ [] → Stops Char.isDigit after.rest) := by
  unfold expectFraction
  constructor
  · intro read
    split at read
    -- A point needs digits behind it, and without one nothing is passed.
    · rename_i point
      obtain ⟨digits, passed, spelled, stops⟩ := expectDigits_iff.mp read
      exact ⟨'.' :: digits, digits, .cons point passed, .present spelled, nofun, fun _ => stops⟩
    · rename_i noPoint
      cases read
      exact ⟨[], [], .refl c, .absent, fun _ => noPoint, fun filled => absurd rfl filled⟩
  · rintro ⟨point, fraction, passed, behind, absent, stops⟩
    -- The point decides which of the two was derived.
    cases behind with
    | absent => rw [if_neg (absent rfl), passed.eq_of_nil]
    | present spelled =>
      rw [if_pos passed.peek]
      exact expectDigits_iff.mpr ⟨fraction, passed.tail, spelled, stops nofun⟩

/-- A sign in front of digits is passed. -/
theorem passes_sign {sign digits : List Char} {negative : Bool} (signed : Sign sign negative)
    (spelled : IsDigits digits) (passed : c.Passes (sign ++ digits) after) :
    (if c.peek = some '+' ∨ c.peek = some '-' then c.next else c).Passes digits after := by
  cases signed with
  | absent =>
    cases digits with
    | nil => exact absurd rfl spelled.1
    | cons first rest =>
      -- No digit is a sign.
      have digit := spelled.2 first List.mem_cons_self
      rw [List.nil_append] at passed
      rw [if_neg]
      · exact passed
      · rw [passed.peek]
        rintro (same | same) <;>
        · cases same
          cases digit
  -- A sign that is written comes next, whichever it is.
  | plus =>
    rw [if_pos (Or.inl passed.peek)]
    exact passed.tail
  | minus =>
    rw [if_pos (Or.inr passed.peek)]
    exact passed.tail

/-- An exponent is passed if there is a mark. -/
theorem expectExponent_iff :
    expectExponent c = .ok after ↔
      ∃ exponent power, c.Passes exponent after ∧ Exponent exponent power ∧
        (exponent = [] → c.peek ≠ some 'e' ∧ c.peek ≠ some 'E') ∧
        (exponent ≠ [] → Stops Char.isDigit after.rest) := by
  unfold expectExponent
  constructor
  · intro read
    split at read
    · -- There is a mark, in either case, and digits behind it.
      rename_i marks
      dsimp only at read
      obtain ⟨mark, there, marks⟩ : ∃ mark, c.peek = some mark ∧ (mark = 'e' ∨ mark = 'E') := by
        rcases marks with there | there
        · exact ⟨_, there, Or.inl rfl⟩
        · exact ⟨_, there, Or.inr rfl⟩
      obtain ⟨digits, passed, spelled, stops⟩ := expectDigits_iff.mp read
      -- The sign is what stands before the digits.
      obtain ⟨sign, negative, signed, before⟩ : ∃ sign negative, Sign sign negative ∧
          c.next.Passes (sign ++ digits) after := by
        split at passed
        · rename_i signs
          rcases signs with plus | minus
          · exact ⟨_, _, .plus, .cons plus passed⟩
          · exact ⟨_, _, .minus, .cons minus passed⟩
        · exact ⟨_, _, .absent, passed⟩
      exact ⟨_, _, .cons there before, .present marks signed spelled, nofun, fun _ => stops⟩
    · rename_i noMark
      cases read
      exact ⟨[], none, .refl c, .absent, fun _ => not_or.mp noMark, fun filled => absurd rfl filled⟩
  · rintro ⟨exponent, power, passed, scale, absent, stops⟩
    -- The mark decides again, and the sign is passed before the digits.
    cases scale with
    | absent =>
      rw [if_neg (not_or.mpr (absent rfl)), passed.eq_of_nil]
    | @present mark sign digits negative marks signed spelled =>
      have there : c.peek = some 'e' ∨ c.peek = some 'E' := by
        rw [passed.peek]
        simpa using marks
      rw [if_pos there]
      exact expectDigits_iff.mpr ⟨digits, passes_sign signed spelled passed.tail, spelled,
        stops nofun⟩

/-- What stands behind an optional minus. -/
theorem passes_minus {minus whole : List Char} {negative : Bool} (sign : Minus minus negative)
    (digits : Whole whole) (tail : List Char) (passed : c.Passes (minus ++ (whole ++ tail)) after) :
    (if c.peek = some '-' then c.next else c).Passes (whole ++ tail) after := by
  cases sign with
  | absent =>
    -- Without a minus, the number begins with a digit.
    obtain ⟨first, rest, rfl, digit⟩ := digits.first
    rw [List.nil_append] at passed
    rw [if_neg]
    · exact passed
    · rw [Cursor.Passes.peek passed]
      intro same
      cases same
      cases digit
  | present =>
    rw [if_pos passed.peek]
    exact passed.tail

/-- A number that has a value is read. -/
theorem readNumber_of_number {parts : Parts} {value : JsonNumber} (number : Number text parts)
    (inRange : parts.value? = some value) (passed : c.Passes text after)
    (stops : Stops inNumber after.rest) :
    readNumber c = .ok (.scalar (.number value) ⟨c.offset, after.offset⟩, after) := by
  have spelled := number.read?
  rw [inRange] at spelled
  have cut := passed.textUpTo
  -- What follows the number begins none of the parts that may be left out.
  obtain ⟨noPoint, noMark, noCapital⟩ := stops_marks stops
  -- The three readers are run one after the other, each on its own part.
  cases number with
  | @mk minus whole point exponent fraction negative power sign digits behind scale =>
    -- The positions between the parts are those the reader stops at.
    obtain ⟨second, first, more⟩ := (passes_minus sign digits _ passed).split
    obtain ⟨third, middle, last⟩ := more.split
    -- What follows a part ends it.
    have noDigit : Stops Char.isDigit (exponent ++ after.rest) :=
      scale.stops.append (stops_isDigit stops)
    have wholeEnds : Stops Char.isDigit second.rest := by
      rw [middle.rest, last.rest, ← List.append_assoc]
      exact (behind.stops scale).append (stops_isDigit stops)
    have wholeRead := expectWhole_iff.mpr ⟨whole, first, digits, Or.inr wholeEnds⟩
    have fractionRead : expectFraction second = .ok third := by
      refine expectFraction_iff.mpr ⟨point, fraction, middle, behind, ?_, ?_⟩
      · rintro rfl
        unfold Cursor.peek
        rw [middle.rest, last.rest]
        cases scale with
        | absent => exact noPoint
        | present marks _ _ => rcases marks with rfl | rfl <;> simp
      · intro _
        rw [last.rest]
        exact noDigit
    -- Without an exponent the number has ended already.
    have exponentRead : expectExponent third = .ok after := by
      refine expectExponent_iff.mpr ⟨exponent, power, last, scale, ?_, fun _ => stops_isDigit stops⟩
      rintro rfl
      rw [last.eq_of_nil] at noMark noCapital
      exact ⟨noMark, noCapital⟩
    unfold readNumber
    simp only [wholeRead, fractionRead, exponentRead, bind, Except.bind]
    -- The text between the first position and the last is the number itself.
    unfold Cursor.textUpTo
    rw [cut]
    simp only [spelled]

/-- What is read as a number is one of the grammar. -/
theorem number_of_readNumber {node : Node} (read : readNumber c = .ok (node, after)) :
    ∃ text parts value, c.Passes text after ∧ Number text parts ∧ parts.value? = some value ∧
      node = .scalar (.number value) ⟨c.offset, c.offset + byteLength text⟩ := by
  unfold readNumber at read
  obtain ⟨second, wholeRead, read⟩ := bind_eq_ok.mp read
  obtain ⟨third, fractionRead, read⟩ := bind_eq_ok.mp read
  obtain ⟨last, exponentRead, read⟩ := bind_eq_ok.mp read
  -- Each part that was passed is a production of the grammar.
  obtain ⟨whole, first, digits, _⟩ := expectWhole_iff.mp wholeRead
  obtain ⟨point, fraction, middle, behind, _⟩ := expectFraction_iff.mp fractionRead
  obtain ⟨exponent, power, ends, scale, _⟩ := expectExponent_iff.mp exponentRead
  have unsigned := first.trans (middle.trans ends)
  -- The sign stands in front of what was read.
  obtain ⟨minus, negative, sign, passed⟩ : ∃ minus negative, Minus minus negative ∧
      c.Passes (minus ++ (whole ++ (point ++ exponent))) last := by
    split at unsigned
    · rename_i minus
      exact ⟨_, _, .present, .cons minus unsigned⟩
    · exact ⟨_, _, .absent, unsigned⟩
  -- The parts together are a number, which is read again to get its value.
  have number : Number _ _ := .mk sign digits behind scale
  unfold Cursor.textUpTo at read
  rw [passed.textUpTo] at read
  dsimp only at read
  split at read
  · rename_i value spelled
    cases read
    rw [number.read?] at spelled
    refine ⟨_, _, value, passed, number, spelled, ?_⟩
    rw [passed.offset]
  · simp at read

/-! ### Words -/

/-- A word is read exactly if it comes next. -/
theorem readWord_iff {word : List Char} {value : Scalar} {node : Node} :
    readWord word value c = .ok (node, after) ↔
      c.Passes word after ∧ node = .scalar value ⟨c.offset, c.offset + byteLength word⟩ := by
  -- The reader looks for the word at the cursor and moves behind it.
  unfold readWord
  constructor
  · intro read
    split at read
    · rename_i there
      have passed := Cursor.Passes.of_startsWith there
      cases read
      refine ⟨passed, ?_⟩
      rw [passed.offset]
    · simp at read
  · rintro ⟨passed, rfl⟩
    -- A word that is passed stands at the start of what is left.
    have there : c.startsWith word = true := by
      have whole : c.Passes (word ++ []) after := by
        rw [List.append_nil]
        exact passed
      exact whole.startsWith
    rw [if_pos there]
    dsimp only
    rw [← passed.moved, passed.offset]

/-! ### Leaves -/

/-- The first character of a number is a minus or a digit. -/
theorem first_of_number {parts : Parts} (number : Number text parts) :
    ∃ first rest, text = first :: rest ∧ (first = '-' ∨ first.isDigit = true) := by
  cases number with
  | mk sign digits behind scale =>
    -- The minus comes first, or else the first digit does.
    cases sign with
    | absent =>
      obtain ⟨first, rest, rfl, digit⟩ := digits.first
      exact ⟨first, _, rfl, Or.inr digit⟩
    | present => exact ⟨'-', _, rfl, Or.inl rfl⟩

/-- A value without children is read, whatever room there is. -/
theorem readValue_of_leaf {bound room : Nat} {value : Scalar}
    (spelled : Leaf (readNatural? 16) text value) (passed : c.Passes text after)
    (stops : Stops inNumber after.rest) (left : c.left ≤ bound) :
    readValue bound room c =
      .ok (.scalar value ⟨c.offset, c.offset + byteLength text⟩, after) := by
  cases spelled with
  | word known =>
    simp only [words, List.mem_cons, Prod.mk.injEq, List.not_mem_nil, or_false] at known
    -- The first letter selects the word.
    rcases known with ⟨rfl, rfl⟩ | ⟨rfl, rfl⟩ | ⟨rfl, rfl⟩ <;>
    · unfold readValue
      rw [passed.peek]
      exact readWord_iff.mpr ⟨passed, rfl⟩
  | number number inRange =>
    have read := readNumber_of_number number inRange passed stops
    rw [passed.offset] at read
    obtain ⟨first, rest, rfl, begins⟩ := first_of_number number
    unfold readValue
    rw [passed.peek]
    -- Neither a digit nor a minus begins anything else.
    split
    all_goals
      rename_i same
      cases same
    all_goals
      first
      | exact absurd begins (by decide)
      | rw [if_pos begins, read]
  | string quoted =>
    -- The quote selects the reader of strings.
    have read := (readString_iff left).mpr ⟨text, passed, quoted, rfl⟩
    cases quoted
    unfold readValue
    rw [passed.peek]
    simp only [read, bind, Except.bind]

end JsonText

end SpecTrace
