import SpecTrace.Proofs.Yaml.PlainText

/-! A JSON value without surrogate escapes is read as the same node where YAML has a flow node. -/

namespace SpecTrace

open Grammar

namespace Yaml

/-- The code units that YAML reads: those that stand for a character alone. -/
abbrev codeUnit? : List Char → Option Nat :=
  loneUnit? (readNatural? 16)

variable {c d after : Cursor} {text : List Char}

/-! ### Layout -/

/-- A character that layout goes on with. -/
def inLayout (ch : Char) : Bool :=
  JsonText.isSpace ch || ch = '#'

/-- Where layout does not go on there is neither a line break nor a blank. -/
theorem stops_layout (stops : Stops inLayout text) {ch : Char} (first : text.head? = some ch) :
    isBreak ch = false ∧ isInlineSpace ch = false := by
  have other := stops ch first
  simp only [inLayout, JsonText.isSpace, Bool.or_eq_false_iff] at other
  exact ⟨other.1.2, other.1.1⟩

/-- White space is layout up to the first other character. -/
theorem layoutLength_space {space tail : List Char} (blank : IsSpace space)
    (stops : Stops inLayout tail) : layoutLength false (space ++ tail) = space.length := by
  -- The white space is counted one by one, and the next character stops the count.
  induction space with
  | nil =>
    cases tail with
    | nil => rfl
    | cons first rest =>
      have other := stops first rfl
      simp only [inLayout, JsonText.isSpace, Bool.or_eq_false_iff, decide_eq_false_iff_not] at other
      simp [layoutLength, other]
  | cons ch rest ih =>
    have others := ih blank.tail
    rcases blank ch List.mem_cons_self with rfl | rfl | rfl | rfl <;>
      simp [layoutLength, isBreak, isInlineSpace, others]

/-- White space is skipped as layout. -/
theorem skipLayout_of_passes {space : List Char} (blank : IsSpace space) (passed : c.Passes space d)
    (stops : Stops inLayout d.rest) : c.skipLayout = (d, space.any isBreak) := by
  unfold Cursor.skipLayout
  dsimp only
  rw [passed.rest, layoutLength_space blank stops, List.take_left, ← passed.moved]

/-- No value begins with layout. -/
theorem begins_stops {first : Char} {rest : List Char} (begins : Begins first) :
    Stops inLayout (first :: rest) := by
  rintro ch same
  cases same
  have notComment : first ≠ '#' := begins.ne (by decide)
  simp [inLayout, begins.not_space, notComment]

/-- An element does not end in front of layout. -/
theorem ends_stops {tail : List Char} (ends : JsonText.Ends tail) : Stops inLayout tail := by
  intro ch first
  rcases ends ch first with rfl | rfl | rfl <;> rfl

/-! ### Quoted scalars -/

/-- A single letter behind a backslash stands for the same character as in JSON. -/
theorem shortEscape?_of_escapes {letter ch : Char} (known : (letter, ch) ∈ escapes) :
    isBreak letter = false ∧ hexEscapeLength? letter = none ∧ shortEscape? letter = some ch := by
  simp only [escapes, List.mem_cons, Prod.mk.injEq, List.not_mem_nil, or_false] at known
  rcases known with ⟨rfl, rfl⟩ | ⟨rfl, rfl⟩ | ⟨rfl, rfl⟩ | ⟨rfl, rfl⟩ | ⟨rfl, rfl⟩ | ⟨rfl, rfl⟩ |
    ⟨rfl, rfl⟩ | ⟨rfl, rfl⟩ <;> exact ⟨rfl, rfl, rfl⟩

/-- A code unit that is no surrogate is read as its character. -/
theorem readHexEscape_unit {w x y z : Char} {unit : Nat} (passed : c.Passes [w, x, y, z] after)
    (spelled : codeUnit? [w, x, y, z] = some unit) :
    readHexEscape 4 c = .ok (Char.ofNat unit, after) := by
  -- The escape takes four bytes, which are the four digits.
  obtain ⟨read, alone⟩ := Option.filter_eq_some_iff.mp spelled
  have bytes : byteLength [w, x, y, z] = 4 := byteLength_of_single (readNatural?_single read).1
  have cut : takeExactBytes? 4 c.rest = some [w, x, y, z] := by
    rw [passed.rest, ← bytes]
    exact takeExactBytes?_append _ _
  have decoded := JsonText.charOfCode?_unit (readNatural?_four read)
  rw [Bool.not_eq_true'] at alone
  rw [alone] at decoded
  unfold readHexEscape
  rw [cut]
  simp only [read, Option.bind_some, decoded]
  rw [← passed.moved]
  rfl

/-- The characters of a string are read up to its closing quote. -/
theorem readQuotedRest_of_characters {chars : List Char} (inside : Characters codeUnit? text chars)
    {began bound : Nat} {read : List Char} {c after : Cursor}
    (passed : c.Passes (text ++ ['"']) after) (room : text.length < bound) :
    readQuotedRest began '"' bound read c = .ok (String.ofList (read.reverse ++ chars), after) := by
  -- By induction on the derivation, as for the reader of JSON strings; only the last case cannot
  -- occur.
  induction inside generalizing read c bound with
  | nil =>
    obtain ⟨bound, rfl⟩ : ∃ n, bound = n + 1 := ⟨bound - 1, by omega⟩
    have quote : c.peek = some '"' := passed.peek
    have last : after = c.next := passed.tail.eq_of_nil
    simp [readQuotedRest, quote, last]
  | @plain ch text chars graphic notQuote notEscape more ih =>
    simp only [List.length_cons] at room
    obtain ⟨bound, rfl⟩ : ∃ n, bound = n + 1 := ⟨bound - 1, by omega⟩
    have there : c.peek = some ch := passed.peek
    have others := @ih bound (ch :: read) c.next passed.tail (by omega)
    -- Line breaks are control characters, which JSON escapes.
    have notBreak : isBreak ch = false := by
      simp only [isBreak, Bool.or_eq_false_iff, decide_eq_false_iff_not]
      refine ⟨?_, ?_⟩ <;>
      · rintro rfl
        exact absurd graphic (by decide)
    simp [readQuotedRest, there, notQuote, notEscape, notBreak, others]
  | @escape letter ch text chars known more ih =>
    simp only [List.length_cons] at room
    obtain ⟨bound, rfl⟩ : ∃ n, bound = n + 1 := ⟨bound - 1, by omega⟩
    have there : c.peek = some '\\' := passed.peek
    have behind := passed.tail
    -- The letter is one of those that YAML has as well.
    obtain ⟨notBreak, notHex, short⟩ := shortEscape?_of_escapes known
    have escape : readEscape c.next = .ok (some ch, c.next.next) := by
      unfold readEscape
      rw [behind.peek]
      simp [notBreak, notHex, short]
    have others := @ih bound (ch :: read) c.next.next behind.tail (by omega)
    simp [readQuotedRest, there, escape, bind, Except.bind, others]
  | @unit w x y z text chars unit digits alone more ih =>
    simp only [List.length_cons] at room
    obtain ⟨bound, rfl⟩ : ∃ n, bound = n + 1 := ⟨bound - 1, by omega⟩
    have there : c.peek = some '\\' := passed.peek
    have digitsAndText : c.next.next.Passes ([w, x, y, z] ++ (text ++ ['"'])) after :=
      passed.tail.tail
    obtain ⟨middle, four, behind⟩ := digitsAndText.split
    have escape : readEscape c.next = .ok (some (Char.ofNat unit), middle) := by
      -- The letter asks for four digits, and they are no surrogate.
      unfold readEscape
      rw [passed.tail.peek]
      have hex := readHexEscape_unit four digits
      simp [isBreak, hexEscapeLength?, hex, bind, Except.bind]
    have others := @ih bound (Char.ofNat unit :: read) middle behind (by omega)
    simp [readQuotedRest, there, escape, bind, Except.bind, others]
  | @pair w x y z w' x' y' z' text chars high low first isHigh second isLow more ih =>
    -- The first half of a pair is no code unit that stands alone.
    obtain ⟨_, alone⟩ := Option.filter_eq_some_iff.mp first
    have surrogate : isSurrogate high = true := by
      simp only [isSurrogate, Bool.and_eq_true, decide_eq_true_eq]
      exact ⟨isHigh.1, Nat.lt_trans isHigh.2 (by decide)⟩
    rw [surrogate] at alone
    cases alone

/-- A string is read as it stands. -/
theorem readQuoted_of_quoted {value : String} {bound : Nat} (quoted : Quoted codeUnit? text value)
    (passed : c.Passes text after) (enough : c.left ≤ bound) :
    readQuoted bound c = .ok ((value, ⟨c.offset, c.offset + byteLength text⟩), after) := by
  cases quoted with
  | @mk text chars inside =>
    have left := passed.left
    simp only [List.length_cons, List.length_append, List.length_nil] at left
    -- What stands between the quotes is less than what is left.
    have room : text.length < bound := by omega
    have rest : readQuotedRest c.offset '"' bound [] c.next = .ok (String.ofList chars, after) :=
      readQuotedRest_of_characters inside passed.tail room
    unfold readQuoted
    rw [passed.peek, Option.getD_some, rest, ← passed.offset]
    rfl

/-! ### Plain scalars -/

/-- What may stand behind a value in a flow collection: white space, and then what ends it. -/
def FlowEnds (tail : List Char) : Prop :=
  ∃ space rest, tail = space ++ rest ∧ IsSpace space ∧ JsonText.Ends rest

/-- A plain scalar ends before the white space behind it. -/
theorem scanFlow_ends {tail : List Char} (ends : FlowEnds tail) (afterBlank : Bool)
    (read text : Nat) : scanFlow afterBlank read text tail = text := by
  obtain ⟨space, rest, rfl, blank, ends⟩ := ends
  -- The blanks do not belong to the scalar, however many come before its end.
  induction space generalizing afterBlank read with
  | nil =>
    cases rest with
    | nil => rfl
    | cons first others =>
      -- A comma or a closing mark ends the scalar.
      rcases ends first rfl with rfl | rfl | rfl <;> simp [scanFlow, isFlowIndicator]
  | cons ch more ih =>
    have others := fun afterBlank read => ih afterBlank read blank.tail
    rcases blank ch List.mem_cons_self with rfl | rfl | rfl | rfl <;>
      simp [scanFlow, isFlowIndicator, isBreak, isInlineSpace, others]

/-- A plain scalar is scanned as a whole. -/
theorem scanFlow_plain {tail : List Char} (plain : ∀ ch ∈ text, isPlain ch = true)
    (ends : FlowEnds tail) (afterBlank : Bool) (read : Nat) :
    scanFlow afterBlank read read (text ++ tail) = read + text.length := by
  -- Character by character the scan goes on, up to the white space behind the text.
  induction text generalizing afterBlank read with
  | nil => exact scanFlow_ends ends afterBlank read read
  | cons ch rest ih =>
    have one := plain ch List.mem_cons_self
    have others := ih (fun d member => plain d (List.mem_cons_of_mem _ member)) false (read + 1)
    simp only [isPlain, Bool.not_eq_true', Bool.or_eq_false_iff, decide_eq_false_iff_not] at one
    -- No character of the text ends it.
    obtain ⟨⟨⟨⟨notBreak, notBlank⟩, notIndicator⟩, notColon⟩, notComment⟩ := one
    simp only [List.cons_append, scanFlow, notBreak, notIndicator, notColon, notComment, notBlank,
      Bool.or_self, Bool.false_eq_true, if_false, decide_false, Bool.false_and, others,
      List.length_cons]
    omega

/-- No plain scalar begins with a quote. -/
theorem Plain.not_quote {value : Scalar} (plain : Plain text value) (passed : c.Passes text after) :
    c.atQuote = false := by
  obtain ⟨first, rest, rfl, begins⟩ := plain.begins
  -- Neither quote is a letter of a word, a digit or a minus.
  have other : ∀ quote : Char, quote ∉ ['t', 'f', 'n'] → quote.isDigit = false → quote ≠ '-' →
      first ≠ quote := by
    rintro quote notLetter notDigit notMinus rfl
    rcases begins with letter | digit | ⟨minus, _⟩
    · exact notLetter letter
    · rw [notDigit] at digit
      cases digit
    · exact notMinus minus
  unfold Cursor.atQuote
  rw [passed.peek]
  simp [other '"' (by decide) rfl (by decide), other '\'' (by decide) rfl (by decide)]

/-- A value without children is read in a flow collection. -/
theorem readFlowScalar_of_leaf {value : Scalar} {bound : Nat} (leaf : Leaf codeUnit? text value)
    (passed : c.Passes text after) (ends : FlowEnds after.rest) (enough : c.left ≤ bound) :
    readFlowScalar bound c =
      .ok ((value, ⟨c.offset, c.offset + byteLength text⟩), after) := by
  unfold readFlowScalar
  rcases plain_or_quoted leaf with plain | ⟨string, rfl, quoted⟩
  -- A plain scalar is as long as the scan says, and its text is resolved.
  · have length : scanFlow true 0 0 c.rest = text.length := by
      rw [passed.rest, scanFlow_plain plain.chars ends, Nat.zero_add]
    have long : text.length ≠ 0 := by
      obtain ⟨first, rest, rfl, _⟩ := plain.begins
      simp
    have taken : c.rest.take text.length = text := by
      rw [passed.rest, List.take_left]
    rw [plain.not_quote passed]
    simp only [Bool.false_eq_true, if_false, length, if_neg long, taken, plain.resolves,
      ← passed.moved, passed.offset]
  · have read := readQuoted_of_quoted quoted passed enough
    have quote : c.atQuote = true := by
      obtain ⟨rest, rfl⟩ := quoted.first
      simp [Cursor.atQuote, passed.peek]
    simp only [quote, if_true, read, bind, Except.bind]

/-! ### Flow nodes -/

variable {document : List Char} {s : State} {first : Char}

/-- A state moves to where it is. -/
theorem moveTo_self (s : State) : s.moveTo s.cursor = s := rfl

/-- Without layout nothing is skipped. -/
theorem skipLayout_self (stops : Stops inLayout s.cursor.rest) : s.skipLayout = s := by
  unfold State.skipLayout
  rw [skipLayout_of_passes .nil (.refl _) stops]
  rfl

/-- White space is skipped as layout. -/
theorem skipLayout_moveTo {space : List Char} (blank : IsSpace space)
    (passed : s.cursor.Passes space d) (stops : Stops inLayout d.rest) :
    s.skipLayout = s.moveTo d := by
  unfold State.skipLayout
  rw [skipLayout_of_passes blank passed stops]

/-- Without a mark of properties none are read. -/
theorem readProperties_none (noTag : c.peek ≠ some '!') (noAnchor : c.peek ≠ some '&')
    (inFlow : Bool) : readProperties inFlow 3 .none c = .ok (.none, c) := by
  simp [readProperties, noTag, noAnchor]

/-- A flow node that a value begins is its content. -/
theorem readFlowNode_begins (there : s.cursor.peek = some first) (begins : Begins first)
    (room : Nat) :
    readFlowNode document (room + 1) s =
      readFlowContent document (readFlowNode document room) .none s := by
  -- A value begins with the mark of neither an alias nor a property.
  have noAlias : first ≠ '*' := begins.ne (by decide)
  have noTag : first ≠ '!' := begins.ne (by decide)
  have noAnchor : first ≠ '&' := begins.ne (by decide)
  unfold readFlowNode
  rw [readProperties_none (by simpa [there] using noTag) (by simpa [there] using noAnchor)]
  simp only [bind, Except.bind, moveTo_self, there, Option.some.injEq, if_neg noAlias]
  -- What is read needs no finishing.
  cases readFlowContent document (readFlowNode document room) .none s <;> rfl

/-- A value is the first thing behind the colon of a flow entry. -/
theorem readFlowValue_begins (there : s.cursor.peek = some first) (begins : Begins first)
    (node : State → Reading (Node × State)) : readFlowValue node s = node s := by
  -- A value that is left out would be followed by one of these.
  have noComma : first ≠ ',' := begins.ne (by decide)
  have noBracket : first ≠ ']' := begins.ne (by decide)
  have noBrace : first ≠ '\x7d' := begins.ne (by decide)
  simp [readFlowValue, there, noComma, noBracket, noBrace]

/-- A part with a comma behind it has more parts behind it. -/
theorem readFlowRest_comma {α : Type} {close : Char} {more : State → Reading (List α × State)}
    {part : α} {rest : List α} {t last : State} (skipped : s.skipLayout = t)
    (there : t.cursor.peek = some ',') (read : more t.next = .ok (rest, last)) :
    readFlowRest close more part s = .ok (part :: rest, last) := by
  unfold readFlowRest
  simp only [skipped, there, if_true, read, bind, Except.bind]

/-- The closing mark stands behind the last part. -/
theorem readFlowRest_close {α : Type} {close : Char} {more : State → Reading (List α × State)}
    {part : α} {t : State} (skipped : s.skipLayout = t) (there : t.cursor.peek = some close)
    (notComma : close ≠ ',') : readFlowRest close more part s = .ok ([part], t.next) := by
  unfold readFlowRest
  simp only [skipped, there, Option.some.injEq, if_neg notComma, if_true]

/-- An item is read with the layout around it, and then the rest of the sequence. -/
theorem readFlowItems_step {node : State → Reading (Node × State)} {item : Node} {began count : Nat}
    (there : s.skipLayout.cursor.peek = some first) (begins : Begins first)
    (read : node s.skipLayout = .ok (item, s.moveTo c))
    (skipped : (s.moveTo c).skipLayout = s.moveTo d)
    (noPair : (s.moveTo d).cursor.peek ≠ some ':') :
    readFlowItems document node began (count + 1) s =
      readFlowRest ']' (readFlowItems document node began count) item (s.moveTo d) := by
  have notBracket : first ≠ ']' := begins.ne (by decide)
  unfold readFlowItems
  dsimp only
  rw [there]
  -- An item begins: the text has not ended, and no bracket closes the sequence.
  split
  · rename_i ended
    cases ended
  · rename_i bracket
    exact absurd (Option.some.inj bracket) notBracket
  · simp only [read, bind, Except.bind, skipped, if_neg noPair]

/-- An entry with a string as its key is read with the layout in it, and then the rest of the
mapping. -/
theorem readFlowEntries_step {node : State → Reading (Node × State)} {began count : Nat}
    {seen : List String} {entry : Entry Node} {named colon : Cursor}
    (quote : s.skipLayout.cursor.peek = some '"')
    (key : readFlowScalar document.length s.skipLayout.cursor =
      .ok ((.string entry.key, entry.keySpan), named))
    (new : entry.key ∉ seen) (spaced : (s.moveTo named).skipLayout = s.moveTo colon)
    (there : colon.peek = some ':')
    (next : (s.moveTo colon.next).skipLayout.cursor.peek = some first) (begins : Begins first)
    (read : node (s.moveTo colon.next).skipLayout = .ok (entry.value, s.moveTo c)) :
    readFlowEntries document node began (count + 1) seen s =
      readFlowRest '\x7d' (readFlowEntries document node began count (entry.key :: seen)) entry
        (s.moveTo c) := by
  -- The key is a string, and stands for itself.
  have sameKey : scalarKey document (.string entry.key) entry.keySpan = entry.key :=
    String.ofList_toList
  have accepted := refuseRepeated_new new entry.keySpan.start
  have moved : s.skipLayout.moveTo named = s.moveTo named := rfl
  have colonThere : (s.moveTo colon).cursor.peek = some ':' := there
  have value : readFlowValue node (s.moveTo colon).next.skipLayout =
      .ok (entry.value, s.moveTo c) :=
    (readFlowValue_begins next begins node).trans read
  unfold readFlowEntries
  dsimp only
  rw [quote]
  -- A quote is none of the marks that are told apart here.
  split
  all_goals
    rename_i same
    cases same
  simp only [key, bind, Except.bind, sameKey, accepted, moved, spaced, colonThere, if_true, value]

/-- A value without children is read as a flow node. -/
theorem readFlowNode_leaf {value : Scalar} {room : Nat} (leaf : Leaf codeUnit? text value)
    (passed : s.cursor.Passes text after) (ends : FlowEnds after.rest)
    (enough : s.cursor.left ≤ document.length) :
    readFlowNode document (room + 1) s =
      .ok (.scalar value ⟨s.cursor.offset, s.cursor.offset + byteLength text⟩, s.moveTo after) := by
  have read := readFlowScalar_of_leaf leaf passed ends enough
  obtain ⟨first, rest, rfl, begins, notSequence, notMapping⟩ := leaf.first
  rw [readFlowNode_begins passed.peek begins]
  unfold readFlowContent
  dsimp only
  -- A value without children opens no collection.
  split
  · rename_i bracket
    rw [passed.peek] at bracket
    exact absurd (Option.some.inj bracket) notSequence
  · rename_i brace
    rw [passed.peek] at brace
    exact absurd (Option.some.inj brace) notMapping
  · simp [Properties.isEmpty, Properties.none, read, bind, Except.bind]

/-- A sequence has the items that are read behind its bracket. -/
theorem readFlowNode_sequence {items : List Node} {t : State} {room : Nat}
    (there : s.cursor.peek = some '[')
    (read : readFlowItems document (readFlowNode document room) s.cursor.offset document.length
      s.next = .ok (items, t)) :
    readFlowNode document (room + 1) s =
      .ok (.sequence items ⟨s.cursor.offset, t.cursor.offset⟩, t) := by
  rw [readFlowNode_begins there (by decide)]
  simp only [readFlowContent, there, read, bind, Except.bind]

/-- A mapping has the entries that are read behind its brace. -/
theorem readFlowNode_mapping {entries : List (Entry Node)} {t : State} {room : Nat}
    (there : s.cursor.peek = some '\x7b')
    (read : readFlowEntries document (readFlowNode document room) s.cursor.offset document.length
      [] s.next = .ok (entries, t)) :
    readFlowNode document (room + 1) s =
      .ok (.mapping entries ⟨s.cursor.offset, t.cursor.offset⟩, t) := by
  rw [readFlowNode_begins there (by decide)]
  simp only [readFlowContent, there, read, bind, Except.bind]

/-- Where a collection is empty, the layout in it ends at the mark that closes it. -/
theorem skipLayout_closing {opening closing : Char} {space : List Char}
    (passed : s.cursor.Passes (opening :: (space ++ [closing])) after) (blank : IsSpace space)
    (closes : closing = ']' ∨ closing = '\x7d') :
    ∃ d, s.next.skipLayout = s.moveTo d ∧ (s.moveTo d).cursor.peek = some closing ∧
      after = d.next := by
  -- A closing mark is no layout, so skipping ends in front of it.
  obtain ⟨d, spaced, closed⟩ := passed.tail.split
  have stops : Stops inLayout d.rest := by
    rw [closed.rest]
    exact ends_stops (JsonText.ends_closing closes)
  exact ⟨d, skipLayout_moveTo blank spaced stops, closed.peek, closed.tail.eq_of_nil⟩

/-- In front of a character there is something left. -/
theorem succ_of_passes {first : Char} {count : Nat} (passed : c.Passes (first :: text) after)
    (enough : c.left ≤ count) : ∃ fewer, count = fewer + 1 := by
  have left := passed.left
  rw [List.length_cons] at left
  exact ⟨count - 1, by omega⟩

/-- Nothing but layout between brackets is read as a sequence without items. -/
theorem readFlowNode_emptySequence {space : List Char} {room : Nat} (blank : IsSpace space)
    (passed : s.cursor.Passes ('[' :: (space ++ [']'])) after)
    (enough : s.cursor.left ≤ document.length) :
    readFlowNode document (room + 1) s =
      .ok (.sequence [] ⟨s.cursor.offset, after.offset⟩, s.moveTo after) := by
  obtain ⟨count, same⟩ := succ_of_passes passed enough
  obtain ⟨d, skipped, bracket, rfl⟩ := skipLayout_closing passed blank (Or.inl rfl)
  -- The reader of items closes the sequence at the first mark it sees.
  have read : readFlowItems document (readFlowNode document room) s.cursor.offset
      document.length s.next = .ok ([], s.moveTo d.next) := by
    rw [same, readFlowItems]
    simp only [skipped, bracket]
    rfl
  exact readFlowNode_sequence passed.peek read

/-- Nothing but layout between braces is read as a mapping without entries. -/
theorem readFlowNode_emptyMapping {space : List Char} {room : Nat} (blank : IsSpace space)
    (passed : s.cursor.Passes ('\x7b' :: (space ++ ['\x7d'])) after)
    (enough : s.cursor.left ≤ document.length) :
    readFlowNode document (room + 1) s =
      .ok (.mapping [] ⟨s.cursor.offset, after.offset⟩, s.moveTo after) := by
  obtain ⟨count, same⟩ := succ_of_passes passed enough
  obtain ⟨d, skipped, brace, rfl⟩ := skipLayout_closing passed blank (Or.inr rfl)
  -- As with the items of a sequence.
  have read : readFlowEntries document (readFlowNode document room) s.cursor.offset
      document.length [] s.next = .ok ([], s.moveTo d.next) := by
    rw [same, readFlowEntries]
    simp only [skipped, brace]
    rfl
  exact readFlowNode_mapping passed.peek read

/-- Behind an element a flow collection goes on or ends. -/
theorem flowEnds_of_space {space tail : List Char} (blank : IsSpace space)
    (ends : JsonText.Ends tail) : FlowEnds (space ++ tail) :=
  ⟨space, tail, rfl, blank, ends⟩

/-- A collection that fits has two levels of room. -/
theorem two_levels {depth room : Nat} (nested : 0 < depth) (fits : depth + 1 ≤ room) :
    ∃ inner, room = inner + 2 :=
  ⟨room - 2, by omega⟩

mutual

/-- A value is read as a flow node, with one level of room more than it is deep. Where a collection
ends does not depend on what stands behind it. -/
-- By recursion on the derivation, as for JSON, with the layout skipped by the rules of YAML.
theorem flow_value : ∀ {start : Nat} {text : List Char} {node : Node},
    Value codeUnit? start text node →
    ∀ (document : List Char) (s : State) (after : Cursor) (room : Nat),
    s.cursor.Passes text after → s.cursor.offset = start →
    (∀ value span, node = .scalar value span → FlowEnds after.rest) →
    s.cursor.left ≤ document.length → node.Distinct → node.toJson.depth + 1 ≤ room →
    readFlowNode document room s = .ok (node, s.moveTo after)
  | _, _, _, .leaf spelled => by
    rintro document s after room passed rfl ends enough _ fits
    obtain ⟨room, rfl⟩ : ∃ n, room = n + 1 := ⟨room - 1, by omega⟩
    exact readFlowNode_leaf spelled passed (ends _ _ rfl) enough
  | _, _, _, @Value.emptyArray _ start space blank => by
    rintro document s after room passed rfl _ enough _ fits
    obtain ⟨room, rfl⟩ : ∃ n, room = n + 1 := ⟨room - 1, by omega⟩
    rw [readFlowNode_emptySequence blank passed enough, ← passed.offset]
  | _, _, _, @Value.array _ start text items inside => by
    rintro document s after room passed rfl _ enough distinct fits
    obtain ⟨room, rfl⟩ := two_levels (Nat.succ_pos _) fits
    have opened := Cursor.Passes.next passed.peek
    have inner : s.next.cursor.left ≤ document.length :=
      Nat.le_trans (Cursor.left_next_le s.cursor) enough
    have each := match distinct with | .sequence each => each
    -- The items have the rest of the room, and the spans agree by the offsets.
    have read := flow_elements inside document s.next after s.cursor.offset document.length room
      passed.tail opened.offset inner inner each
      (Node.depth_sequence_le.mp (Nat.le_of_succ_le_succ fits))
    rw [readFlowNode_sequence passed.peek read, ← passed.offset]
    rfl
  | _, _, _, @Value.emptyObject _ start space blank => by
    rintro document s after room passed rfl _ enough _ fits
    obtain ⟨room, rfl⟩ : ∃ n, room = n + 1 := ⟨room - 1, by omega⟩
    rw [readFlowNode_emptyMapping blank passed enough, ← passed.offset]
  | _, _, _, @Value.object _ start text entries inside => by
    rintro document s after room passed rfl _ enough distinct fits
    obtain ⟨room, rfl⟩ := two_levels (Nat.succ_pos _) fits
    have opened := Cursor.Passes.next passed.peek
    have inner : s.next.cursor.left ≤ document.length :=
      Nat.le_trans (Cursor.left_next_le s.cursor) enough
    have fresh : FreshEntries [] entries :=
      match distinct with | .mapping keys below => ⟨keys, by simp, below⟩
    -- The entries have the rest of the room, and none of their keys was seen before.
    have read := flow_members inside document s.next after s.cursor.offset document.length room []
      passed.tail opened.offset inner inner fresh
      (Node.depth_mapping_le.mp (Nat.le_of_succ_le_succ fits))
    rw [readFlowNode_mapping passed.peek read, ← passed.offset]
    rfl

/-- An element is read as a flow node with layout around it. -/
theorem flow_element : ∀ {start : Nat} {text : List Char} {node : Node},
    Element codeUnit? start text node →
    ∀ (document : List Char) (s : State) (after : Cursor) (room : Nat),
    s.cursor.Passes text after → s.cursor.offset = start → JsonText.Ends after.rest →
    s.cursor.left ≤ document.length → node.Distinct → node.toJson.depth + 1 ≤ room →
    ∃ first d, s.skipLayout.cursor.peek = some first ∧ Begins first ∧
      readFlowNode document room s.skipLayout = .ok (node, s.moveTo d) ∧
      (s.moveTo d).skipLayout = s.moveTo after
  | _, _, _, @Element.mk _ start before text behind node opens value closes => by
    rintro document s after room passed rfl ends enough distinct fits
    -- The text of an element is white space, its value, and white space.
    obtain ⟨d, ahead, more⟩ := passed.split
    obtain ⟨e, middle, last⟩ := more.split
    have left := ahead.left
    -- The layout in front ends where the value begins.
    obtain ⟨first, rest, same, begins⟩ := value.first
    have there : d.peek = some first := (same ▸ middle).peek
    have stops : Stops inLayout d.rest := by
      rw [middle.rest, same]
      exact begins_stops begins
    have skipped : s.skipLayout = s.moveTo d := skipLayout_moveTo opens ahead stops
    -- A plain scalar ends at the layout behind it, or at what ends the element.
    have flowEnds : FlowEnds e.rest := by
      rw [last.rest]
      exact flowEnds_of_space closes ends
    have inner : (s.moveTo d).cursor.left ≤ document.length := by
      show d.left ≤ _
      omega
    have read := flow_value value document (s.moveTo d) e room middle ahead.offset
      (fun _ _ _ => flowEnds) inner distinct fits
    rw [skipped]
    exact ⟨first, e, there, begins, read, skipLayout_moveTo closes last (ends_stops ends)⟩

/-- The items of an array are read as those of a flow sequence. -/
theorem flow_elements : ∀ {start : Nat} {text : List Char} {items : List Node},
    Elements codeUnit? start text items →
    ∀ (document : List Char) (s : State) (after : Cursor) (began count room : Nat),
    s.cursor.Passes (text ++ [']']) after → s.cursor.offset = start →
    s.cursor.left ≤ document.length → s.cursor.left ≤ count → (∀ item ∈ items, item.Distinct) →
    (∀ item ∈ items, item.toJson.depth ≤ room) →
    readFlowItems document (readFlowNode document (room + 1)) began count s =
      .ok (items, s.moveTo after)
  | _, _, _, @Elements.last _ start text node item => by
    rintro document s after began count room passed rfl enough counted distinct fits
    -- The last item ends at the bracket.
    obtain ⟨d, count, rfl, ahead, bracket, _⟩ := passed.part counted
    have ends : JsonText.Ends d.rest := by
      rw [bracket.rest]
      exact JsonText.ends_closing (Or.inl rfl)
    obtain ⟨first, e, there, begins, read, skipped⟩ := flow_element item document s d (room + 1)
      ahead rfl ends enough (distinct node List.mem_cons_self)
      (Nat.succ_le_succ (fits node List.mem_cons_self))
    have closes : (s.moveTo d).cursor.peek = some ']' := bracket.peek
    rw [readFlowItems_step there begins read skipped (by rw [closes]; decide),
      readFlowRest_close (skipLayout_self (ends_stops ends)) closes (by decide),
      bracket.tail.eq_of_nil]
    rfl
  | _, _, _, @Elements.more _ start text rest node nodes item others => by
    rintro document s after began count room passed rfl enough counted distinct fits
    rw [List.append_assoc] at passed
    -- An earlier item ends at its comma.
    obtain ⟨d, count, rfl, ahead, comma, fewer, left, behind⟩ := passed.part counted
    have ends : JsonText.Ends d.rest := by
      rw [comma.rest]
      exact JsonText.ends_comma
    obtain ⟨first, e, there, begins, read, skipped⟩ := flow_element item document s d (room + 1)
      ahead rfl ends enough (distinct node List.mem_cons_self)
      (Nat.succ_le_succ (fits node List.mem_cons_self))
    have separates : (s.moveTo d).cursor.peek = some ',' := comma.peek
    have more := flow_elements others document (s.moveTo d).next after began count room comma.tail
      behind (Nat.le_trans left enough) fewer
      (fun later member => distinct later (List.mem_cons_of_mem _ member))
      (fun later member => fits later (List.mem_cons_of_mem _ member))
    rw [readFlowItems_step there begins read skipped (by rw [separates]; decide),
      readFlowRest_comma (skipLayout_self (ends_stops ends)) separates more]
    rfl

/-- A member is read as an entry of a flow mapping. -/
theorem flow_member : ∀ {start : Nat} {text : List Char} {entry : Entry Node},
    Member codeUnit? start text entry →
    ∀ (document : List Char) (s : State) (after : Cursor) (room : Nat),
    s.cursor.Passes text after → s.cursor.offset = start → JsonText.Ends after.rest →
    s.cursor.left ≤ document.length → entry.value.Distinct → entry.value.toJson.depth + 1 ≤ room →
    ∃ named colon first d, s.skipLayout.cursor.peek = some '"' ∧
      readFlowScalar document.length s.skipLayout.cursor =
        .ok ((.string entry.key, entry.keySpan), named) ∧
      (s.moveTo named).skipLayout = s.moveTo colon ∧ colon.peek = some ':' ∧
      (s.moveTo colon.next).skipLayout.cursor.peek = some first ∧ Begins first ∧
      readFlowNode document room (s.moveTo colon.next).skipLayout = .ok (entry.value, s.moveTo d) ∧
      (s.moveTo d).skipLayout = s.moveTo after
  | _, _, _, @Member.mk _ start before name between text key node opens quoted parts value => by
    rintro document s after room passed rfl ends enough distinct fits
    obtain ⟨d, ahead, more⟩ := passed.split
    obtain ⟨e, middle, others⟩ := more.split
    obtain ⟨f, spaced, last⟩ := others.split
    have colon := Cursor.Passes.next last.peek
    obtain ⟨rest, same⟩ := quoted.first
    have quote : d.peek = some '"' := (same ▸ middle).peek
    have stops : Stops inLayout d.rest := by
      rw [middle.rest, same]
      exact begins_stops (by decide)
    -- The layout behind the key ends at the colon.
    have stopsColon : Stops inLayout f.rest := by
      rw [last.rest]
      rintro ch colon
      cases colon
      rfl
    have skipped : s.skipLayout = s.moveTo d := skipLayout_moveTo opens ahead stops
    have skippedColon : (s.moveTo e).skipLayout = s.moveTo f :=
      skipLayout_moveTo parts spaced stopsColon
    have upToColon := ahead.trans (middle.trans spaced)
    have left := ahead.left
    have leftColon := (upToColon.trans colon).left
    have behind : f.next.offset =
        s.cursor.offset + byteLength (before ++ (name ++ between)) + 1 := by
      rw [colon.offset, upToColon.offset]
      rfl
    have inner : (s.moveTo f.next).cursor.left ≤ document.length := by
      show f.next.left ≤ _
      omega
    obtain ⟨first, g, there, begins, read, ended⟩ := flow_element value document (s.moveTo f.next)
      after room last.tail behind ends inner distinct fits
    have enoughName : d.left ≤ document.length := by omega
    have named := readQuoted_of_quoted quoted middle enoughName
    -- The key is a quoted scalar of its own.
    have atQuote : d.atQuote = true := by simp [Cursor.atQuote, quote]
    refine ⟨e, f, first, g, by rw [skipped]; exact quote, ?_, skippedColon, last.peek, there, begins,
      read, ended⟩
    rw [skipped]
    show readFlowScalar document.length d = _
    rw [readFlowScalar, if_pos atQuote, named, ahead.offset]
    rfl

/-- The members of an object are read as those of a flow mapping. -/
theorem flow_members : ∀ {start : Nat} {text : List Char} {entries : List (Entry Node)},
    Members codeUnit? start text entries →
    ∀ (document : List Char) (s : State) (after : Cursor) (began count room : Nat)
      (seen : List String),
    s.cursor.Passes (text ++ ['\x7d']) after → s.cursor.offset = start →
    s.cursor.left ≤ document.length → s.cursor.left ≤ count → FreshEntries seen entries →
    (∀ entry ∈ entries, entry.value.toJson.depth ≤ room) →
    readFlowEntries document (readFlowNode document (room + 1)) began count seen s =
      .ok (entries, s.moveTo after)
  | _, _, _, @Members.last _ start text entry member => by
    rintro document s after began count room seen passed rfl enough counted fresh fits
    -- The last member ends at the brace.
    obtain ⟨d, count, rfl, ahead, brace, _⟩ := passed.part counted
    have ends : JsonText.Ends d.rest := by
      rw [brace.rest]
      exact JsonText.ends_closing (Or.inr rfl)
    obtain ⟨named, colon, first, e, quote, key, spaced, there, next, begins, read, skipped⟩ :=
      flow_member member document s d (room + 1) ahead rfl ends enough
        (fresh.below _ List.mem_cons_self) (Nat.succ_le_succ (fits _ List.mem_cons_self))
    have closes : (s.moveTo d).cursor.peek = some '\x7d' := brace.peek
    rw [readFlowEntries_step quote key (fresh.fresh _ List.mem_cons_self) spaced there next begins
      read, readFlowRest_close skipped closes (by decide), brace.tail.eq_of_nil]
    rfl
  | _, _, _, @Members.more _ start text rest entry entries member others => by
    rintro document s after began count room seen passed rfl enough counted fresh fits
    rw [List.append_assoc] at passed
    -- An earlier member ends at its comma, and its key is among those seen behind it.
    obtain ⟨d, count, rfl, ahead, comma, fewer, left, behind⟩ := passed.part counted
    have ends : JsonText.Ends d.rest := by
      rw [comma.rest]
      exact JsonText.ends_comma
    obtain ⟨named, colon, first, e, quote, key, spaced, there, next, begins, read, skipped⟩ :=
      flow_member member document s d (room + 1) ahead rfl ends enough
        (fresh.below _ List.mem_cons_self) (Nat.succ_le_succ (fits _ List.mem_cons_self))
    have separates : (s.moveTo d).cursor.peek = some ',' := comma.peek
    have more := flow_members others document (s.moveTo d).next after began count room
      (entry.key :: seen) comma.tail behind (Nat.le_trans left enough) fewer fresh.tail
      (fun later member => fits later (List.mem_cons_of_mem _ member))
    rw [readFlowEntries_step quote key (fresh.fresh _ List.mem_cons_self) spaced there next begins
      read, readFlowRest_comma skipped separates more]
    rfl

end

end Yaml

end SpecTrace
