import Mathlib.Algebra.Group.Nat.Defs
import SpecTrace.Proofs.Number.Spelling
import SpecTrace.Proofs.Text.Passing

/-! The reader of JSON strings reads exactly the strings of the grammar, if its reading of code units
is taken for that of the grammar. -/

namespace SpecTrace

/-- A text that takes exactly a number of bytes is cut off what goes on behind it. -/
theorem takeExactBytes?_append (text tail : List Char) :
    takeExactBytes? (byteLength text) (text ++ tail) = some text := by
  simp [takeExactBytes?, takeBytes_append]

/-- What is cut off stands at the front. -/
theorem takeBytes_isPrefix (n : Nat) (text : List Char) : takeBytes n text <+: text := by
  induction text generalizing n with
  | nil => simp [takeBytes]
  -- A character is taken if it fits, and nothing behind one that does not.
  | cons c rest ih =>
    unfold takeBytes
    split
    · exact (List.prefix_cons_inj c).mpr (ih _)
    · exact List.nil_prefix

/-- What is cut off by a number of bytes takes that many bytes. -/
theorem takeExactBytes?_eq_some {n : Nat} {text front : List Char}
    (cut : takeExactBytes? n text = some front) : front <+: text ∧ byteLength front = n := by
  unfold takeExactBytes? at cut
  dsimp only at cut
  -- The cut is taken back if a character reaches over the last byte.
  split at cut
  · rename_i whole
    cases cut
    exact ⟨takeBytes_isPrefix n text, whole⟩
  · cases cut

/-- A digit of any radix is a character of one byte. -/
theorem digitValue?_single {radix : Nat} {c : Char} {value : Nat} (small : radix ≤ 16)
    (read : digitValue? radix c = some value) : c.utf8Size = 1 ∧ value < radix := by
  unfold digitValue? at read
  simp only [Option.ite_none_right_eq_some, Option.some.injEq] at read
  -- The value has to be less than the radix.
  obtain ⟨within, rfl⟩ := read
  refine ⟨?_, within⟩
  -- Every character with a value below sixteen is a letter or a digit.
  have low : c.toNat ≤ 102 := by
    -- The digits end at 57, the small letters at 102 and the capitals at 70.
    split at within
    · rename_i digit
      have : c.toNat ≤ 57 := digit.2
      omega
    · split at within
      · rename_i letter
        exact letter.2
      · split at within
        · rename_i letter
          have : c.toNat ≤ 70 := letter.2
          omega
        · omega
  rw [Char.utf8Size_eq_one_iff, UInt32.le_iff_toNat_le]
  exact Nat.le_trans low (by decide)

/-- Digits are characters of one byte, and their number is bounded by how many there are. -/
theorem readDigits?_single {radix : Nat} (small : radix ≤ 16) {digits : List Char}
    {value number : Nat} (read : readDigits? radix value digits = some number) :
    (∀ c ∈ digits, c.utf8Size = 1) ∧ number < (value + 1) * radix ^ digits.length := by
  -- By induction on the digits, with the number that the digits so far have made.
  induction digits generalizing value with
  | nil =>
    cases read
    simp
  | cons c rest ih =>
    simp only [readDigits?] at read
    obtain ⟨digit, one, others⟩ := Option.bind_eq_some_iff.mp read
    obtain ⟨single, less⟩ := digitValue?_single small one
    -- The bound for the others starts from the value with this digit.
    obtain ⟨singles, bound⟩ := ih others
    refine ⟨List.forall_mem_cons.mpr ⟨single, singles⟩, Nat.lt_of_lt_of_le bound ?_⟩
    -- The digit makes the value at most the next multiple of the radix.
    have grown : value * radix + digit + 1 ≤ (value + 1) * radix := by
      rw [Nat.add_mul]
      omega
    calc (value * radix + digit + 1) * radix ^ rest.length
        ≤ (value + 1) * radix * radix ^ rest.length := Nat.mul_le_mul_right _ grown
      _ = (value + 1) * radix ^ (c :: rest).length := by
        rw [List.length_cons, Nat.pow_succ, Nat.mul_assoc, Nat.mul_comm radix]

/-- What is read as a code unit has characters of one byte and is bounded. -/
theorem readNatural?_single {digits : List Char} {number : Nat}
    (read : readNatural? 16 digits = some number) :
    (∀ c ∈ digits, c.utf8Size = 1) ∧ number < 16 ^ digits.length := by
  unfold readNatural? at read
  split at read
  · cases read
  · cases read
  · -- A plus takes one byte too, and the others are fewer digits.
    rename_i rest more
    obtain ⟨singles, bound⟩ := readDigits?_single (by decide) read
    refine ⟨List.forall_mem_cons.mpr ⟨rfl, singles⟩, Nat.lt_of_lt_of_le bound ?_⟩
    rw [List.length_cons, Nat.pow_succ]
    omega
  · obtain ⟨singles, bound⟩ := readDigits?_single (by decide) read
    exact ⟨singles, by simpa using bound⟩

/-- A code unit has sixteen bits. -/
theorem readNatural?_four {w x y z : Char} {unit : Nat}
    (read : readNatural? 16 [w, x, y, z] = some unit) : unit < 0x10000 := by
  -- Four digits of four bits each.
  have bound := (readNatural?_single read).2
  simp only [List.length_cons, List.length_nil] at bound
  omega

/-- Hexadecimal digits without a sign are read as digits. -/
theorem readNatural?_of_readDigits? {digits : List Char} {number : Nat} (filled : digits ≠ [])
    (read : readDigits? 16 0 digits = some number) : readNatural? 16 digits = some number := by
  -- The reader looks for nothing, a lone plus, and a plus in front of digits before it reads
  -- digits.
  unfold readNatural?
  split
  · exact absurd rfl filled
  · cases read
  · -- A plus is no digit.
    simp [readDigits?, digitValue?] at read
  · exact read

/-- Without a sign, only digits are read. -/
theorem readDigits?_of_readNatural? {digits : List Char} {number : Nat}
    (unsigned : digits.head? ≠ some '+') (read : readNatural? 16 digits = some number) :
    readDigits? 16 0 digits = some number := by
  -- The sign has a branch of its own, which is excluded, as the empty text is.
  unfold readNatural? at read
  split at read
  · cases read
  · cases read
  · exact absurd rfl unsigned
  · exact read

open Grammar

namespace JsonText

variable {c after : Cursor}

/-- A character that is expected comes next and is passed. -/
theorem expect_iff {wanted : Char} : expect wanted c = .ok after ↔ c.Passes [wanted] after := by
  -- It tests the next character and passes it, which is the one way to pass that character.
  unfold expect
  constructor
  · intro read
    split at read
    · rename_i there
      cases read
      exact .next there
    · simp at read
  · intro passed
    rw [if_pos passed.peek, passed.tail.eq_of_nil]

/-- A code unit is read from exactly four characters. -/
theorem readCodeUnit_iff {unit : Nat} :
    readCodeUnit c = .ok (unit, after) ↔
      ∃ w x y z, c.Passes [w, x, y, z] after ∧ readNatural? 16 [w, x, y, z] = some unit := by
  -- The reader cuts out bytes and the grammar asks for characters, so both directions go between
  -- the two.
  unfold readCodeUnit
  constructor
  · intro read
    split at read
    · simp at read
    · rename_i digits cut
      split at read
      · simp at read
      · rename_i number spelled
        cases read
        obtain ⟨⟨tail, there⟩, bytes⟩ := takeExactBytes?_eq_some cut
        -- Each of the four bytes is a character.
        have four := bytes
        rw [byteLength_of_single (readNatural?_single spelled).1] at four
        obtain ⟨w, x, y, z, rfl⟩ : ∃ w x y z, digits = [w, x, y, z] := by
          match digits, four with
          | [w, x, y, z], _ => exact ⟨w, x, y, z, rfl⟩
        exact ⟨w, x, y, z, .of_rest there.symm, spelled⟩
  · rintro ⟨w, x, y, z, passed, spelled⟩
    -- Digits are single bytes, so the four of them are cut out again.
    have bytes : byteLength [w, x, y, z] = 4 :=
      byteLength_of_single (readNatural?_single spelled).1
    have cut : takeExactBytes? 4 c.rest = some [w, x, y, z] := by
      rw [passed.rest, ← bytes]
      exact takeExactBytes?_append _ _
    rw [cut]
    simp only [spelled]
    rw [← passed.moved]

/-- A code unit that is no surrogate is the code of a character, and no other one is. -/
theorem charOfCode?_unit {unit : Nat} (small : unit < 0x10000) :
    charOfCode? unit = if isSurrogate unit then none else some (Char.ofNat unit) := by
  unfold charOfCode? isSurrogate Nat.isValidChar
  -- Below sixteen bits only the surrogates are no characters.
  by_cases surrogate : 0xD800 ≤ unit ∧ unit < 0xE000
  · rw [if_neg (by omega)]
    simp [surrogate]
  · rw [if_pos (by omega)]
    simp only [Bool.and_eq_true, decide_eq_true_eq, if_neg surrogate]

/-- Every pair of surrogates is the code of a character. -/
theorem charOfCode?_pair {high low : Nat} (isHigh : 0xD800 ≤ high ∧ high < 0xDC00)
    (isLow : 0xDC00 ≤ low ∧ low < 0xE000) :
    charOfCode? (pairCode high low) =
      some (Char.ofNat (pairCode high low)) := by
  unfold charOfCode? Nat.isValidChar
  -- A pair stands for a code above all code units.
  have valid : pairCode high low < 0x110000 ∧ 0xDFFF < pairCode high low := by
    unfold pairCode
    omega
  rw [if_pos (Or.inr ⟨valid.2, valid.1⟩)]

/-- A unicode escape of a single code unit is read. -/
theorem readUnicodeEscape_unit {w x y z : Char} {unit : Nat} (passed : c.Passes [w, x, y, z] after)
    (spelled : readNatural? 16 [w, x, y, z] = some unit) (alone : isSurrogate unit = false) :
    readUnicodeEscape c = .ok (Char.ofNat unit, after) := by
  have read := readCodeUnit_iff.mpr ⟨w, x, y, z, passed, spelled⟩
  have decoded := charOfCode?_unit (readNatural?_four spelled)
  rw [alone] at decoded
  -- Without a high surrogate no second escape is looked for.
  have notHigh : ¬(0xD800 ≤ unit ∧ unit < 0xDC00) := by
    simp only [isSurrogate, Bool.and_eq_false_iff, decide_eq_false_iff_not] at alone
    omega
  unfold readUnicodeEscape
  rw [read]
  show (if 0xD800 ≤ unit ∧ unit < 0xDC00 then _ else _) = _
  rw [if_neg notHigh, decoded]
  rfl

/-- A unicode escape of a pair of surrogates is read. -/
theorem readUnicodeEscape_pair {w x y z w' x' y' z' : Char} {high low : Nat} {middle : Cursor}
    (first : c.Passes [w, x, y, z] middle) (spelled : readNatural? 16 [w, x, y, z] = some high)
    (isHigh : 0xD800 ≤ high ∧ high < 0xDC00)
    (second : middle.Passes ['\\', 'u', w', x', y', z'] after)
    (spelled' : readNatural? 16 [w', x', y', z'] = some low)
    (isLow : 0xDC00 ≤ low ∧ low < 0xE000) :
    readUnicodeEscape c =
      .ok (Char.ofNat (pairCode high low), after) := by
  have read := readCodeUnit_iff.mpr ⟨w, x, y, z, first, spelled⟩
  have six : middle.Passes (['\\', 'u'] ++ [w', x', y', z']) after := second
  -- The second escape is told by its mark, and read behind it.
  have mark := six.startsWith
  have behind : (middle.advance 2).Passes [w', x', y', z'] after := second.tail.tail
  have read' := readCodeUnit_iff.mpr ⟨w', x', y', z', behind, spelled'⟩
  unfold readUnicodeEscape
  refine bind_eq_ok.mpr ⟨(high, middle), read, ?_⟩
  split
  -- The steps are taken one by one, because the code of a pair must not be computed.
  rename_i _ _ same
  cases same
  split
  · split
    · rename_i noMark
      simp [mark] at noMark
    · refine bind_eq_ok.mpr ⟨(low, after), read', ?_⟩
      split
      rename_i _ _ same
      cases same
      split
      · have pair := charOfCode?_pair isHigh isLow
        unfold pairCode at pair ⊢
        split
        · rename_i decoded found
          rw [pair] at found
          rw [Option.some.inj found]
        · rename_i found
          rw [pair] at found
          cases found
      · rename_i notLow
        exact absurd isLow notLow
  · rename_i notHigh
    exact absurd isHigh notHigh

/-- The letters of the grammar are those of the reader. -/
theorem shortEscape?_iff {letter decoded : Char} :
    shortEscape? letter = some decoded ↔ (letter, decoded) ∈ escapes := by
  constructor
  · intro known
    -- The reader has a case for each of the eight letters, and no other.
    unfold shortEscape? at known
    split at known <;> cases known <;> simp [escapes]
  · intro known
    simp only [escapes, List.mem_cons, Prod.mk.injEq, List.not_mem_nil, or_false] at known
    rcases known with ⟨rfl, rfl⟩ | ⟨rfl, rfl⟩ | ⟨rfl, rfl⟩ | ⟨rfl, rfl⟩ | ⟨rfl, rfl⟩ | ⟨rfl, rfl⟩ |
      ⟨rfl, rfl⟩ | ⟨rfl, rfl⟩ <;> rfl

/-- What stands behind a backslash is read as the grammar has it. -/
theorem readEscape_iff {decoded : Char} :
    readEscape c = .ok (decoded, after) ↔
      (∃ letter, c.Passes [letter] after ∧ (letter, decoded) ∈ escapes) ∨
        (c.peek = some 'u' ∧ readUnicodeEscape c.next = .ok (decoded, after)) := by
  -- The reader branches on the letter, and the grammar lists the letters.
  unfold readEscape
  constructor
  · intro read
    -- Behind the backslash comes nothing, the letter of unicode escapes, or another letter.
    split at read
    · simp at read
    · rename_i unicode
      exact Or.inr ⟨unicode, read⟩
    · rename_i letter notUnicode there
      split at read
      · rename_i known
        cases read
        exact Or.inl ⟨letter, .next there, shortEscape?_iff.mp known⟩
      · simp at read
  · rintro (⟨letter, passed, known⟩ | ⟨unicode, read⟩)
    · have short := shortEscape?_iff.mpr known
      -- The letter of unicode escapes is no short escape.
      have notUnicode : letter ≠ 'u' := by
        rintro rfl
        cases short
      rw [passed.peek]
      split
      · rename_i ended
        cases ended
      · rename_i unicode
        exact absurd (Option.some.inj unicode) notUnicode
      · rename_i same
        cases same
        rw [short]
        simp only [passed.tail.eq_of_nil]
    · rw [unicode]
      exact read

/-- A character of a string is the closing quote, begins an escape or stands for itself. -/
theorem readStringRest_char {began : Nat} {ch : Char} (there : c.peek = some ch) (bound : Nat)
    (read : List Char) :
    readStringRest began (bound + 1) read c =
      if ch = '"' then .ok (String.ofList read.reverse, c.next)
      else if ch = '\\' then do
        let (decoded, c) ← readEscape c.next
        readStringRest began bound (decoded :: read) c
      else if ch.toNat < 0x20 then c.fail .controlCharacter
      else readStringRest began bound (ch :: read) c.next := by
  -- The match is on the quote and on the backslash, so any other character is in its last branch.
  rw [readStringRest, there]
  split
  · rename_i ended
    cases ended
  · rename_i quote
    cases quote
    rfl
  · rename_i escape
    cases escape
    rfl
  · rename_i notQuote notEscape same
    cases same
    rw [if_neg notQuote, if_neg notEscape]

/-- Behind an escape that is read, the string goes on. -/
theorem readStringRest_escape {began bound : Nat} {decoded : Char} (there : c.peek = some '\\')
    (escape : readEscape c.next = .ok (decoded, after)) (read : List Char) :
    readStringRest began (bound + 1) read c = readStringRest began bound (decoded :: read) after := by
  rw [readStringRest_char there, if_neg (by decide), if_pos rfl, escape]
  rfl

/-- The characters of a string are read up to its closing quote. -/
theorem readStringRest_of_characters {text chars : List Char}
    (inside : Characters (readNatural? 16) text chars) {began bound : Nat} {read : List Char}
    {c after : Cursor} (passed : c.Passes (text ++ ['"']) after) (room : text.length < bound) :
    readStringRest began bound read c = .ok (String.ofList (read.reverse ++ chars), after) := by
  -- Each production of the grammar is one step of the reader.
  induction inside generalizing read c bound with
  | nil =>
    obtain ⟨bound, rfl⟩ : ∃ n, bound = n + 1 := ⟨bound - 1, by omega⟩
    have quote : c.peek = some '"' := passed.peek
    rw [readStringRest_char quote, if_pos rfl, passed.tail.eq_of_nil, List.append_nil]
  | @plain ch text chars graphic notQuote notEscape more ih =>
    simp only [List.length_cons] at room
    obtain ⟨bound, rfl⟩ : ∃ n, bound = n + 1 := ⟨bound - 1, by omega⟩
    -- A plain character is neither the quote, the backslash nor a control character.
    have there : c.peek = some ch := passed.peek
    have control : ¬ch.toNat < 0x20 := by omega
    have others := @ih bound (ch :: read) c.next passed.tail (by omega)
    rw [readStringRest_char there, if_neg notQuote, if_neg notEscape, if_neg control, others]
    simp
  -- A letter behind the backslash is one character more than the two that were written.
  | @escape letter ch text chars known more ih =>
    simp only [List.length_cons] at room
    obtain ⟨bound, rfl⟩ : ∃ n, bound = n + 1 := ⟨bound - 1, by omega⟩
    have there : c.peek = some '\\' := passed.peek
    have behind := passed.tail
    have short : readEscape c.next = .ok (ch, c.next.next) :=
      readEscape_iff.mpr (Or.inl ⟨letter, .next behind.peek, known⟩)
    have others := @ih bound (ch :: read) c.next.next behind.tail (by omega)
    rw [readStringRest_escape there short, others]
    simp
  | @unit w x y z text chars unit digits alone more ih =>
    simp only [List.length_cons] at room
    obtain ⟨bound, rfl⟩ : ∃ n, bound = n + 1 := ⟨bound - 1, by omega⟩
    have there : c.peek = some '\\' := passed.peek
    -- The four digits stand between the mark and the text behind the escape.
    have digitsAndText : c.next.next.Passes ([w, x, y, z] ++ (text ++ ['"'])) after :=
      passed.tail.tail
    obtain ⟨middle, four, behind⟩ := digitsAndText.split
    have unicode : readEscape c.next = .ok (Char.ofNat unit, middle) :=
      readEscape_iff.mpr (Or.inr ⟨passed.tail.peek, readUnicodeEscape_unit four digits alone⟩)
    have others := @ih bound (Char.ofNat unit :: read) middle behind (by omega)
    rw [readStringRest_escape there unicode, others]
    simp
  | @pair w x y z w' x' y' z' text chars high low first isHigh second isLow more ih =>
    simp only [List.length_cons] at room
    obtain ⟨bound, rfl⟩ : ∃ n, bound = n + 1 := ⟨bound - 1, by omega⟩
    have there : c.peek = some '\\' := passed.peek
    -- The second escape follows the digits of the first one.
    have digitsAndText : c.next.next.Passes
        ([w, x, y, z] ++ (['\\', 'u', w', x', y', z'] ++ (text ++ ['"']))) after :=
      passed.tail.tail
    obtain ⟨middle, four, rest⟩ := digitsAndText.split
    obtain ⟨last, six, behind⟩ := rest.split
    have unicode := readUnicodeEscape_pair four first isHigh six second isLow
    have pair := readEscape_iff.mpr (Or.inr ⟨passed.tail.peek, unicode⟩)
    rw [readStringRest_escape there pair, ih behind (by omega)]
    simp

/-- A unicode escape that is read is a code unit alone or a pair of surrogates. -/
theorem readUnicodeEscape_cases {decoded : Char}
    (read : readUnicodeEscape c = .ok (decoded, after)) :
    (∃ w x y z unit, c.Passes [w, x, y, z] after ∧ readNatural? 16 [w, x, y, z] = some unit ∧
        isSurrogate unit = false ∧ decoded = Char.ofNat unit) ∨
      ∃ w x y z w' x' y' z' high low,
        c.Passes [w, x, y, z, '\\', 'u', w', x', y', z'] after ∧
        readNatural? 16 [w, x, y, z] = some high ∧ (0xD800 ≤ high ∧ high < 0xDC00) ∧
        readNatural? 16 [w', x', y', z'] = some low ∧ (0xDC00 ≤ low ∧ low < 0xE000) ∧
        decoded = Char.ofNat (pairCode high low) := by
  unfold readUnicodeEscape at read
  -- The first code unit decides whether a second one belongs to it.
  obtain ⟨unit, one, read⟩ := bind_eq_ok.mp read
  split at read
  rename_i first middle
  obtain ⟨w, x, y, z, four, spelled⟩ := readCodeUnit_iff.mp one
  split at read
  · -- A high surrogate needs a second escape behind it.
    rename_i isHigh
    split at read
    · simp at read
    · rename_i mark
      obtain ⟨unit', two, read⟩ := bind_eq_ok.mp read
      split at read
      rename_i second last
      obtain ⟨w', x', y', z', more, spelled'⟩ := readCodeUnit_iff.mp two
      split at read
      · rename_i isLow
        have pair := charOfCode?_pair isHigh isLow
        have escape : middle.Passes ['\\', 'u'] (middle.advance 2) :=
          .of_startsWith (by simpa using mark)
        have passed := four.trans (escape.trans more)
        -- The code gets a name, so that no step computes it.
        generalize code : 0x10000 + (first - 0xD800) * 0x400 + (second - 0xDC00) = joined at read
        have same : pairCode first second = joined := by
          unfold pairCode
          exact code
        rw [same] at pair
        rw [pair] at read
        simp only [Except.ok.injEq, Prod.mk.injEq] at read
        obtain ⟨rfl, rfl⟩ := read
        exact Or.inr ⟨w, x, y, z, w', x', y', z', first, second, passed, spelled, isHigh, spelled',
          isLow, by rw [same]⟩
      · simp at read
  · -- Any other code unit has to stand for a character by itself.
    rw [charOfCode?_unit (readNatural?_four spelled)] at read
    cases surrogate : isSurrogate first with
    | true => simp [surrogate] at read
    | false =>
      simp only [surrogate, Bool.false_eq_true, if_false, Except.ok.injEq, Prod.mk.injEq] at read
      obtain ⟨rfl, rfl⟩ := read
      exact Or.inl ⟨w, x, y, z, first, four, spelled, surrogate, rfl⟩

/-- What is read up to a closing quote is characters of a string. -/
theorem characters_of_readStringRest {began bound : Nat} {read : List Char} {c after : Cursor}
    {value : String} (answered : readStringRest began bound read c = .ok (value, after)) :
    ∃ text chars, c.Passes (text ++ ['"']) after ∧ Characters (readNatural? 16) text chars ∧
      value = String.ofList (read.reverse ++ chars) := by
  -- By induction on the steps of the reader; what was read before is carried along.
  induction bound generalizing read c with
  | zero => cases answered
  | succ bound ih =>
    unfold readStringRest at answered
    split at answered
    -- The reader stops at the end, at a quote, at a backslash or at another character.
    · cases answered
    · rename_i quote
      cases answered
      exact ⟨[], [], .next quote, .nil, by simp⟩
    · rename_i backslash
      obtain ⟨⟨decoded, behind⟩, escape, answered⟩ := bind_eq_ok.mp answered
      obtain ⟨text, chars, others, inside, rfl⟩ := ih answered
      -- The escape is one of three productions.
      rcases readEscape_iff.mp escape with ⟨letter, short, known⟩ | ⟨unicode, digits⟩
      · exact ⟨'\\' :: letter :: text, decoded :: chars, .cons backslash (short.trans others),
          .escape known inside, by simp⟩
      · rcases readUnicodeEscape_cases digits with
          ⟨w, x, y, z, unit, four, spelled, alone, same⟩ |
          ⟨w, x, y, z, w', x', y', z', high, low, ten, spelled, isHigh, spelled', isLow, same⟩
        · rw [same]
          exact ⟨_, _, .cons backslash (.cons unicode (four.trans others)),
            .unit spelled alone inside, by simp⟩
        · rw [same]
          exact ⟨_, _, .cons backslash (.cons unicode (ten.trans others)),
            .pair spelled isHigh spelled' isLow inside, by simp⟩
    · rename_i letter notQuote notEscape there
      split at answered
      · simp at answered
      · rename_i graphic
        obtain ⟨text, chars, others, inside, rfl⟩ := ih answered
        exact ⟨letter :: text, letter :: chars, .cons there others,
          .plain (by omega) (fun same => notQuote (by rw [same]))
            (fun same => notEscape (by rw [same])) inside, by simp⟩

/-- A string is read exactly if one of the grammar comes next. -/
theorem readString_iff {bound : Nat} {value : String} {span : Span} (room : c.left ≤ bound) :
    readString bound c = .ok ((value, span), after) ↔
      ∃ text, c.Passes text after ∧ Quoted (readNatural? 16) text value ∧
        span = ⟨c.offset, c.offset + byteLength text⟩ := by
  unfold readString
  constructor
  · intro read
    -- Nothing is read without an opening quote.
    obtain ⟨inside, opened, read⟩ := bind_eq_ok.mp read
    obtain ⟨⟨string, behind⟩, rest, read⟩ := bind_eq_ok.mp read
    cases read
    obtain ⟨text, chars, others, characters, rfl⟩ := characters_of_readStringRest rest
    have passed := (expect_iff.mp opened).trans others
    refine ⟨_, passed, .mk characters, ?_⟩
    rw [passed.offset]
  · rintro ⟨text, passed, quoted, rfl⟩
    cases quoted with
    | @mk text chars characters =>
      -- The steps suffice, since every one of them passes a character.
      have left := passed.left
      simp only [List.length_cons, List.length_append, List.length_nil] at left
      have enough : text.length < bound := by omega
      have rest : readStringRest c.offset bound [] c.next = .ok (String.ofList chars, after) :=
        readStringRest_of_characters characters passed.tail enough
      rw [expect_iff.mpr (.next passed.peek)]
      simp only [bind, Except.bind, rest]
      simp [passed.offset]

end JsonText

end SpecTrace
