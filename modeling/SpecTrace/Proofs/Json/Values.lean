import SpecTrace.Proofs.Json.Leaves
import SpecTrace.Proofs.Json.Proper

/-! A text is read as JSON exactly if the grammar derives it, no object in it repeats a key and it is
not nested too deep. -/

namespace SpecTrace

/-- A key that was not seen before is not refused. -/
theorem refuseRepeated_new {seen : List String} {key : String} (new : key ∉ seen) (offset : Nat) :
    refuseRepeated seen key offset = .ok () := by
  simp [refuseRepeated, new]

/-- Behind the first of entries that repeat no key, its key is among those seen. -/
theorem FreshEntries.tail {seen : List String} {entry : Entry Node} {rest : List (Entry Node)}
    (fresh : FreshEntries seen (entry :: rest)) : FreshEntries (entry.key :: seen) rest := by
  -- The key comes neither before, among those seen, nor again.
  obtain ⟨notLater, keys⟩ := List.nodup_cons.mp fresh.keys
  refine ⟨keys, fun later member => ?_, fun later member =>
    fresh.below later (List.mem_cons_of_mem _ member)⟩
  intro seenBefore
  rcases List.mem_cons.mp seenBefore with same | known
  · exact notLater (same ▸ List.mem_map_of_mem member)
  · exact fresh.fresh later (List.mem_cons_of_mem _ member) known

/-- The characters of white space are those that are skipped. -/
theorem JsonText.isSpace_iff {ch : Char} :
    isSpace ch = true ↔ ch = ' ' ∨ ch = '\t' ∨ ch = '\n' ∨ ch = '\r' := by
  simp [isSpace, isInlineSpace, isBreak, or_assoc]

namespace Grammar

variable {text space front back : List Char} {unit? : List Char → Option Nat} {start : Nat}

/-- White space in two parts is white space. -/
theorem IsSpace.append (first : IsSpace front) (second : IsSpace back) :
    IsSpace (front ++ back) := by
  intro c member
  rcases List.mem_append.mp member with inFront | inBack
  · exact first c inFront
  · exact second c inBack

/-- No character is white space as well. -/
theorem IsSpace.nil : IsSpace [] :=
  nofun

/-- Behind the first character of white space there is white space. -/
theorem IsSpace.tail {c : Char} (blank : IsSpace (c :: text)) : IsSpace text :=
  fun d member => blank d (List.mem_cons_of_mem _ member)

/-- White space may be put in front of an element. -/
theorem Element.spaced {node : Node} (blank : IsSpace space)
    (element : Element unit? (start + byteLength space) text node) :
    Element unit? start (space ++ text) node := by
  cases element with
  | mk opens value closes =>
    -- The value begins behind the white space of both.
    rw [Nat.add_assoc, ← byteLength_append] at value
    rw [← List.append_assoc]
    exact .mk (blank.append opens) value closes

/-- White space may be put in front of the items of an array. -/
theorem Elements.spaced {items : List Node} (blank : IsSpace space)
    (elements : Elements unit? (start + byteLength space) text items) :
    Elements unit? start (space ++ text) items := by
  -- The white space belongs to the first item; the others start where they did.
  cases elements with
  | last item => exact .last (item.spaced blank)
  | more item others =>
    rw [Nat.add_assoc start, ← byteLength_append] at others
    rw [← List.append_assoc]
    exact .more (item.spaced blank) others

/-- White space may be put behind an element. -/
theorem Element.closed {node : Node} (blank : IsSpace space)
    (element : Element unit? start text node) : Element unit? start (text ++ space) node := by
  cases element with
  | mk opens value closes =>
    rw [List.append_assoc, List.append_assoc]
    exact .mk opens value (closes.append blank)

/-- White space may be put behind the items of an array. -/
theorem Elements.closed (blank : IsSpace space) :
    ∀ {start : Nat} {text : List Char} {items : List Node},
      Elements unit? start text items → Elements unit? start (text ++ space) items
  | _, _, _, .last item => .last (item.closed blank)
  -- The white space belongs to the last item.
  | _, _, _, .more item others => by
    rw [List.append_assoc]
    exact .more item (Elements.closed blank others)

/-- White space may be put in front of a member. -/
theorem Member.spaced {entry : Entry Node} (blank : IsSpace space)
    (member : Member unit? (start + byteLength space) text entry) :
    Member unit? start (space ++ text) entry := by
  -- The white space joins what stands in front of the key already.
  cases member with
  | mk opens quoted parts value =>
    rw [Nat.add_assoc start, ← byteLength_append, ← List.append_assoc] at value
    rw [Nat.add_assoc start, ← byteLength_append, ← List.append_assoc]
    exact .mk (blank.append opens) quoted parts value

/-- White space may be put behind a member. -/
theorem Member.closed {entry : Entry Node} (blank : IsSpace space)
    (member : Member unit? start text entry) : Member unit? start (text ++ space) entry := by
  cases member with
  | mk opens quoted parts value =>
    -- The white space belongs to the value, which stands last.
    rw [List.append_assoc, List.append_assoc, List.append_assoc, List.cons_append]
    exact .mk opens quoted parts (value.closed blank)

/-- White space may be put behind the members of an object. -/
theorem Members.closed (blank : IsSpace space) :
    ∀ {start : Nat} {text : List Char} {entries : List (Entry Node)},
      Members unit? start text entries → Members unit? start (text ++ space) entries
  | _, _, _, .last member => .last (member.closed blank)
  | _, _, _, .more member others => by
    rw [List.append_assoc]
    exact .more member (Members.closed blank others)

/-- White space may be put in front of the members of an object. -/
theorem Members.spaced {entries : List (Entry Node)} (blank : IsSpace space)
    (members : Members unit? (start + byteLength space) text entries) :
    Members unit? start (space ++ text) entries := by
  -- The white space belongs to the first member; the others start where they did.
  cases members with
  | last member => exact .last (member.spaced blank)
  | more member others =>
    rw [Nat.add_assoc start, ← byteLength_append] at others
    rw [← List.append_assoc]
    exact .more (member.spaced blank) others

/-- The first character of a quoted string is a quote. -/
theorem Quoted.first {value : String} (quoted : Quoted unit? text value) :
    ∃ rest, text = '"' :: rest := by
  cases quoted
  exact ⟨_, rfl⟩

/-- What a value may begin with. -/
def Begins (first : Char) : Prop :=
  first ∈ ['[', '\x7b', '"', 't', 'f', 'n', '-'] ∨ first.isDigit = true

instance (first : Char) : Decidable (Begins first) :=
  inferInstanceAs (Decidable (_ ∨ _))

/-- A character that begins no value is another one than the first of a value. -/
theorem Begins.ne {first c : Char} (begins : Begins first) (other : ¬Begins c) : first ≠ c :=
  fun same => other (same ▸ begins)

/-- No value begins with white space. -/
theorem Begins.not_space {first : Char} (begins : Begins first) :
    JsonText.isSpace first = false := by
  -- None of the four characters of white space begins a value.
  cases space : JsonText.isSpace first with
  | false => rfl
  | true =>
    rcases JsonText.isSpace_iff.mp space with same | same | same | same <;>
      exact absurd same (begins.ne (by decide))

/-- The first character of a value without children, which opens no collection. -/
theorem Leaf.first {value : Scalar} (leaf : Leaf unit? text value) :
    ∃ first rest, text = first :: rest ∧ Begins first ∧ first ≠ '[' ∧ first ≠ '\x7b' := by
  -- A word begins with a letter, a string with a quote, and a number with what numbers begin with.
  cases leaf with
  | word known =>
    simp only [words, List.mem_cons, Prod.mk.injEq, List.not_mem_nil, or_false] at known
    rcases known with ⟨rfl, _⟩ | ⟨rfl, _⟩ | ⟨rfl, _⟩ <;> exact ⟨_, _, rfl, by decide⟩
  | number number inRange =>
    obtain ⟨first, rest, rfl, begins⟩ := JsonText.first_of_number number
    refine ⟨first, rest, rfl, ?_⟩
    -- A number begins with a minus or a digit, and neither opens a collection.
    rcases begins with rfl | digit
    · decide
    · refine ⟨Or.inr digit, ?_, ?_⟩ <;>
      · rintro rfl
        cases digit
  | string quoted =>
    obtain ⟨rest, rfl⟩ := quoted.first
    exact ⟨_, _, rfl, by decide⟩

/-- The first character of a value. -/
theorem Value.first {node : Node} (value : Value unit? start text node) :
    ∃ first rest, text = first :: rest ∧ Begins first := by
  -- A leaf begins with what its spelling begins with, and a collection with its bracket or brace.
  cases value with
  | leaf spelled =>
    obtain ⟨first, rest, same, begins, _⟩ := spelled.first
    exact ⟨first, rest, same, begins⟩
  | emptyArray _ => exact ⟨_, _, rfl, by decide⟩
  | array _ => exact ⟨_, _, rfl, by decide⟩
  | emptyObject _ => exact ⟨_, _, rfl, by decide⟩
  | object _ => exact ⟨_, _, rfl, by decide⟩

/-- The first character of an element behind its white space. -/
theorem Element.first {node : Node} (element : Element unit? start text node) :
    ∃ space first rest, text = space ++ first :: rest ∧ IsSpace space ∧ Begins first := by
  cases element with
  | mk opens value closes =>
    obtain ⟨first, rest, rfl, begins⟩ := value.first
    exact ⟨_, first, _, rfl, opens, begins⟩

/-- The first character of the items of an array behind the white space. -/
theorem Elements.first {items : List Node} (elements : Elements unit? start text items) :
    ∃ space first rest, text = space ++ first :: rest ∧ IsSpace space ∧ Begins first := by
  cases elements with
  | last item => exact item.first
  -- The first item comes first, whatever follows the comma.
  | more item others =>
    obtain ⟨space, first, rest, rfl, opens, begins⟩ := item.first
    exact ⟨space, first, _, by rw [List.append_assoc]; rfl, opens, begins⟩

/-- The members of an object begin with a quote behind the white space. -/
theorem Members.first {entries : List (Entry Node)} (members : Members unit? start text entries) :
    ∃ space rest, text = space ++ '"' :: rest ∧ IsSpace space := by
  -- The first member begins with the quote of its key.
  have one : ∀ {text entry}, Member unit? start text entry →
      ∃ space rest, text = space ++ '"' :: rest ∧ IsSpace space := by
    intro text entry member
    cases member with
    | mk opens quoted parts value =>
      obtain ⟨rest, rfl⟩ := quoted.first
      exact ⟨_, _, rfl, opens⟩
  cases members with
  | last member => exact one member
  | more member others =>
    obtain ⟨space, rest, rfl, opens⟩ := one member
    exact ⟨space, _, by rw [List.append_assoc]; rfl, opens⟩

end Grammar

open Grammar

namespace JsonText

variable {c d after : Cursor} {text : List Char} {bound limit room : Nat}

/-! ### White space -/

/-- White space is passed when it is skipped. -/
theorem passes_skipSpace (c : Cursor) : ∃ space, IsSpace space ∧ c.Passes space (skipSpace c) :=
  ⟨_, fun ch member => isSpace_iff.mp (List.all_eq_true.mp List.all_takeWhile ch member),
    c.passes_skipWhile isSpace⟩

/-- White space is skipped up to the first other character. -/
theorem skipSpace_of_passes {space : List Char} (blank : IsSpace space) (passed : c.Passes space d)
    (stops : Stops isSpace d.rest) : skipSpace c = d :=
  passed.skipWhile (fun ch member => isSpace_iff.mpr (blank ch member)) stops

/-- Skipping white space twice skips no more. -/
theorem skipSpace_skipSpace (c : Cursor) : skipSpace (skipSpace c) = skipSpace c :=
  skipSpace_of_passes .nil (.refl _) fun _ => c.peek_skipWhile

/-! ### What is read is derived -/

/-- Every value that a reader answers in a text of a limited length is derived, and fits the
room. -/
def Derives (value : Cursor → Reading (Node × Cursor)) (limit room : Nat) : Prop :=
  ∀ c node after, c.left ≤ limit → value c = .ok (node, after) →
    ∃ text, c.Passes text after ∧ Value (readNatural? 16) c.offset text node ∧
      node.toJson.depth ≤ room

/-- A value with the white space around it is an element. -/
theorem Derives.element {value : Cursor → Reading (Node × Cursor)}
    (derives : Derives value limit room) {node : Node} (enough : c.left ≤ limit)
    (read : value (skipSpace c) = .ok (node, d)) :
    ∃ text, c.Passes text (skipSpace d) ∧ Element (readNatural? 16) c.offset text node ∧
      node.toJson.depth ≤ room := by
  -- The white space on both sides is part of the element.
  obtain ⟨before, opens, first⟩ := passes_skipSpace c
  have left := first.left
  obtain ⟨text, passed, derived, fits⟩ := derives _ _ _ (by omega) read
  obtain ⟨behind, closes, last⟩ := passes_skipSpace d
  rw [first.offset] at derived
  exact ⟨_, first.trans (passed.trans last), .mk opens derived closes, fits⟩

/-- The items that are read are derived. -/
theorem elements_of_readItems {value : Cursor → Reading (Node × Cursor)}
    (derives : Derives value limit room) {items : List Node} (enough : c.left ≤ limit)
    (read : readItems value bound c = .ok (items, after)) :
    ∃ text, c.Passes (text ++ [']']) after ∧ Elements (readNatural? 16) c.offset text items ∧
      ∀ item ∈ items, item.toJson.depth ≤ room := by
  -- By induction on the items that are looked for.
  induction bound generalizing c items with
  | zero => simp [readItems] at read
  | succ bound ih =>
    unfold readItems at read
    obtain ⟨⟨item, behind⟩, first, read⟩ := bind_eq_ok.mp read
    -- An item is followed by a comma and more items, or by the bracket.
    obtain ⟨text, passed, element, fits⟩ := derives.element enough first
    dsimp only at read
    split at read
    · rename_i comma
      obtain ⟨⟨rest, last⟩, others, read⟩ := bind_eq_ok.mp read
      cases read
      have separated := Cursor.Passes.next comma
      have left := passed.left
      have leftComma := separated.left
      obtain ⟨more, passes, elements, fit⟩ := ih (by omega) others
      -- The items behind the comma begin one byte behind the first one.
      rw [separated.offset, passed.offset] at elements
      refine ⟨text ++ ',' :: more, ?_, .more element elements, List.forall_mem_cons.mpr ⟨fits, fit⟩⟩
      rw [List.append_assoc]
      exact passed.trans (separated.trans passes)
    · rename_i bracket
      cases read
      exact ⟨text, passed.trans (.next bracket), .last element, by simpa using fits⟩
    · simp at read

/-- The members that are read are derived. -/
theorem members_of_readMembers {value : Cursor → Reading (Node × Cursor)}
    (derives : Derives value limit room) {seen : List String} {entries : List (Entry Node)}
    (enough : c.left ≤ limit) (read : readMembers value limit bound seen c = .ok (entries, after)) :
    ∃ text, c.Passes (text ++ ['\x7d']) after ∧ Members (readNatural? 16) c.offset text entries ∧
      ∀ entry ∈ entries, entry.value.toJson.depth ≤ room := by
  -- By induction on the bound, which every member uses up; the keys that were seen are general.
  induction bound generalizing c seen entries with
  | zero => simp [readMembers] at read
  | succ bound ih =>
    unfold readMembers at read
    dsimp only at read
    split at read
    · simp at read
    · -- A member is read in four steps: its key, the test for a repetition, the colon, and the
      -- value.
      obtain ⟨⟨⟨key, keySpan⟩, named⟩, string, read⟩ := bind_eq_ok.mp read
      obtain ⟨_, _, read⟩ := bind_eq_ok.mp read
      obtain ⟨colon, expected, read⟩ := bind_eq_ok.mp read
      obtain ⟨⟨child, behind⟩, first, read⟩ := bind_eq_ok.mp read
      obtain ⟨before, opens, spaced⟩ := passes_skipSpace c
      have left := spaced.left
      obtain ⟨name, passedName, quoted, rfl⟩ := (readString_iff (by omega)).mp string
      obtain ⟨between, parts, spacedColon⟩ := passes_skipSpace named
      have upToValue := spaced.trans
        (passedName.trans (spacedColon.trans (expect_iff.mp expected)))
      have leftValue := upToValue.left
      obtain ⟨text, passed, element, fits⟩ := derives.element (by omega) first
      rw [upToValue.offset] at element
      -- What was passed so far is a member, from its white space to that of its value.
      have member : Member (readNatural? 16) c.offset (before ++ (name ++ (between ++ ':' :: text)))
          ⟨key, ⟨(skipSpace c).offset, (skipSpace c).offset + byteLength name⟩, child⟩ := by
        rw [spaced.offset]
        refine .mk opens quoted parts ?_
        have colonSize : ':'.utf8Size = 1 := rfl
        simpa [Nat.add_assoc, colonSize] using element
      have whole : c.Passes (before ++ (name ++ (between ++ ':' :: text))) (skipSpace behind) := by
        simpa using upToValue.trans passed
      dsimp only at read
      split at read
      · rename_i comma
        obtain ⟨⟨rest, last⟩, others, read⟩ := bind_eq_ok.mp read
        cases read
        have separated := Cursor.Passes.next comma
        have left := whole.left
        have leftComma := separated.left
        obtain ⟨more, passes, members, fit⟩ := ih (by omega) others
        rw [separated.offset, whole.offset] at members
        refine ⟨_ ++ ',' :: more, ?_, .more member members, List.forall_mem_cons.mpr ⟨fits, fit⟩⟩
        rw [List.append_assoc]
        exact whole.trans (separated.trans passes)
      · -- Behind the last member the object is closed.
        rename_i brace
        cases read
        exact ⟨_, whole.trans (.next brace), .last member, by simpa using fits⟩
      · simp at read

/-- An array that is read is derived. -/
theorem value_of_readArray {value : Cursor → Reading (Node × Cursor)}
    (derives : Derives value limit room) (opened : c.peek = some '[') (enough : c.left ≤ limit)
    {node : Node} (read : readArray value bound c = .ok (node, after)) :
    ∃ text, c.Passes text after ∧ Value (readNatural? 16) c.offset text node ∧
      node.toJson.depth ≤ room + 1 := by
  unfold readArray at read
  have bracket := Cursor.Passes.next opened
  -- Only white space stands in an empty array; otherwise it belongs to the first item.
  obtain ⟨space, blank, spaced⟩ := passes_skipSpace c.next
  dsimp only at read
  split at read
  · rename_i closed
    cases read
    have passed := bracket.trans (spaced.trans (.next closed))
    refine ⟨_, passed, ?_, Node.depth_sequence_le.mpr (by simp)⟩
    rw [passed.offset]
    exact .emptyArray blank
  · obtain ⟨⟨items, behind⟩, inside, read⟩ := bind_eq_ok.mp read
    cases read
    have left := bracket.left
    have leftSpace := spaced.left
    obtain ⟨text, passes, elements, fit⟩ := elements_of_readItems derives (by omega) inside
    rw [spaced.offset, bracket.offset] at elements
    have passed := bracket.trans (spaced.trans passes)
    -- The white space in front is counted to the first item.
    rw [← List.append_assoc space] at passed
    refine ⟨_, passed, ?_, Node.depth_sequence_le.mpr fit⟩
    rw [passed.offset]
    exact .array (elements.spaced blank)

/-- An object that is read is derived. -/
theorem value_of_readObject {value : Cursor → Reading (Node × Cursor)}
    (derives : Derives value limit room) (opened : c.peek = some '\x7b') (enough : c.left ≤ limit)
    {node : Node} (read : readObject value limit c = .ok (node, after)) :
    ∃ text, c.Passes text after ∧ Value (readNatural? 16) c.offset text node ∧
      node.toJson.depth ≤ room + 1 := by
  unfold readObject at read
  have brace := Cursor.Passes.next opened
  -- Only white space stands in an empty object; otherwise it belongs to the first member.
  obtain ⟨space, blank, spaced⟩ := passes_skipSpace c.next
  dsimp only at read
  split at read
  · rename_i closed
    cases read
    have passed := brace.trans (spaced.trans (.next closed))
    refine ⟨_, passed, ?_, Node.depth_mapping_le.mpr (by simp)⟩
    rw [passed.offset]
    exact .emptyObject blank
  · obtain ⟨⟨entries, behind⟩, inside, read⟩ := bind_eq_ok.mp read
    cases read
    have left := brace.left
    have leftSpace := spaced.left
    obtain ⟨text, passes, members, fit⟩ := members_of_readMembers derives (by omega) inside
    rw [spaced.offset, brace.offset] at members
    have passed := brace.trans (spaced.trans passes)
    -- The white space in front is counted to the first member.
    rw [← List.append_assoc space] at passed
    refine ⟨_, passed, ?_, Node.depth_mapping_le.mpr fit⟩
    rw [passed.offset]
    exact .object (members.spaced blank)

/-- A value without children that is read is derived, and fits any room. -/
theorem value_of_leaf {node : Node} (notObject : c.peek ≠ some '\x7b')
    (notArray : c.peek ≠ some '[') (enough : c.left ≤ limit)
    (read : readValue limit room c = .ok (node, after)) :
    ∃ text, c.Passes text after ∧ Value (readNatural? 16) c.offset text node ∧
      node.toJson.depth ≤ room := by
  -- It is enough to derive a leaf, since nothing in it depends on the room.
  have derived : ∃ text value, c.Passes text after ∧ Leaf (readNatural? 16) text value ∧
      node = .scalar value ⟨c.offset, c.offset + byteLength text⟩ := by
    unfold readValue at read
    split at read
    · rename_i object
      exact absurd object notObject
    · rename_i array
      exact absurd array notArray
    -- The cases follow the first character: a quote, the letter of a word, or that of a number.
    · obtain ⟨⟨⟨string, span⟩, behind⟩, quoted, read⟩ := bind_eq_ok.mp read
      cases read
      obtain ⟨text, passed, spelled, rfl⟩ := (readString_iff enough).mp quoted
      exact ⟨text, _, passed, .string spelled, rfl⟩
    · obtain ⟨passed, rfl⟩ := readWord_iff.mp read
      exact ⟨_, _, passed, .word (by simp [words]), rfl⟩
    · obtain ⟨passed, rfl⟩ := readWord_iff.mp read
      exact ⟨_, _, passed, .word (by simp [words]), rfl⟩
    · obtain ⟨passed, rfl⟩ := readWord_iff.mp read
      exact ⟨_, _, passed, .word (by simp [words]), rfl⟩
    · split at read
      · obtain ⟨text, parts, value, passed, number, inRange, rfl⟩ := number_of_readNumber read
        exact ⟨text, _, passed, .number number inRange, rfl⟩
      · simp at read
    · simp at read
  -- A value without children is not nested at all.
  obtain ⟨text, value, passed, leaf, rfl⟩ := derived
  refine ⟨text, passed, .leaf leaf, ?_⟩
  cases value <;> exact Nat.zero_le _

/-- Every value that is read is derived. -/
theorem readValue_derives (limit room : Nat) : Derives (readValue limit room) limit room := by
  -- A collection uses one level of the room for what is inside of it.
  induction room with
  | zero =>
    -- Without room, no collection is opened, and only leaves are read.
    intro c node after enough read
    by_cases object : c.peek = some '\x7b'
    · simp [readValue, object] at read
    · by_cases array : c.peek = some '['
      · simp [readValue, array] at read
      · exact value_of_leaf object array enough read
  | succ room ih =>
    intro c node after enough read
    by_cases object : c.peek = some '\x7b'
    · simp only [readValue, object] at read
      exact value_of_readObject ih object enough read
    · by_cases array : c.peek = some '['
      · simp only [readValue, array] at read
        exact value_of_readArray ih array enough read
      · exact value_of_leaf object array enough read

/-! ### What is derived is read -/

/-- What may stand behind an element: nothing, a comma, or the mark that closes a collection. -/
def Ends (tail : List Char) : Prop :=
  ∀ c, tail.head? = some c → c = ',' ∨ c = ']' ∨ c = '\x7d'

/-- White space ends where an element does. -/
theorem Ends.stops_isSpace {tail : List Char} (ends : Ends tail) : Stops isSpace tail := by
  intro c first
  rcases ends c first with rfl | rfl | rfl <;> rfl

/-- Neither white space nor the end of an element goes on with a number. -/
theorem Ends.stops_inNumber {space tail : List Char} (ends : Ends tail) (blank : IsSpace space) :
    Stops inNumber (space ++ tail) := by
  intro c first
  -- The next character is one of the white space or, without any, of what ends the element.
  cases space with
  | nil => rcases ends c first with rfl | rfl | rfl <;> rfl
  | cons s rest =>
    cases first
    rcases blank c List.mem_cons_self with rfl | rfl | rfl | rfl <;> rfl

/-- White space is skipped up to a character that is none. -/
theorem skipSpace_to {space : List Char} {first : Char} {rest : List Char} (blank : IsSpace space)
    (spaced : c.Passes space d) (there : d.rest = first :: rest)
    (notSpace : isSpace first = false) : skipSpace c = d := by
  -- What follows is the character that is there, and it stops the skipping.
  refine skipSpace_of_passes blank spaced ?_
  rw [there]
  intro ch same
  cases same
  exact notSpace

/-- What comes next behind white space. -/
theorem peek_skipSpace {space rest : List Char} {first : Char} (blank : IsSpace space)
    (passed : c.Passes (space ++ first :: rest) after) (notSpace : isSpace first = false) :
    (skipSpace c).peek = some first := by
  obtain ⟨d, spaced, others⟩ := passed.split
  rw [skipSpace_to blank spaced others.rest notSpace]
  exact others.peek

/-- White space in front of the items of an array is skipped anyway. -/
theorem readItems_skipSpace (value : Cursor → Reading (Node × Cursor)) (count : Nat) (c : Cursor) :
    readItems value (count + 1) (skipSpace c) = readItems value (count + 1) c := by
  simp only [readItems, skipSpace_skipSpace]

/-- White space in front of the members of an object is skipped anyway. -/
theorem readMembers_skipSpace (value : Cursor → Reading (Node × Cursor)) (bound count : Nat)
    (seen : List String) (c : Cursor) :
    readMembers value bound (count + 1) seen (skipSpace c) =
      readMembers value bound (count + 1) seen c := by
  simp only [readMembers, skipSpace_skipSpace]

/-- An item ends at a comma. -/
theorem ends_comma {rest : List Char} : Ends (',' :: rest) := by
  intro c first
  cases first
  exact Or.inl rfl

/-- An item ends at a closing bracket, and the value of a member at a closing brace. -/
theorem ends_closing {closing : Char} (closes : closing = ']' ∨ closing = '\x7d')
    {rest : List Char} : Ends (closing :: rest) := by
  intro c first
  cases first
  exact Or.inr closes

/-- Nothing but white space between brackets is read as an array without items. -/
theorem readArray_empty {value : Cursor → Reading (Node × Cursor)} {space : List Char}
    (blank : IsSpace space) (passed : c.Passes ('[' :: (space ++ [']'])) after) :
    readArray value bound c = .ok (.sequence [] ⟨c.offset, after.offset⟩, after) := by
  obtain ⟨d, spaced, closed⟩ := passed.tail.split
  -- The bracket behind the white space closes the array at once.
  have skipped := skipSpace_to blank spaced closed.rest rfl
  simp only [readArray, skipped, closed.peek, if_true]
  rw [← closed.tail.eq_of_nil]

/-- Nothing but white space between braces is read as an object without members. -/
theorem readObject_empty {value : Cursor → Reading (Node × Cursor)} {space : List Char}
    (blank : IsSpace space) (passed : c.Passes ('\x7b' :: (space ++ ['\x7d'])) after) :
    readObject value bound c = .ok (.mapping [] ⟨c.offset, after.offset⟩, after) := by
  obtain ⟨d, spaced, closed⟩ := passed.tail.split
  -- The brace behind the white space closes the object at once.
  have skipped := skipSpace_to blank spaced closed.rest rfl
  simp only [readObject, skipped, closed.peek, if_true]
  rw [← closed.tail.eq_of_nil]

/-- Items behind a bracket are read as an array. -/
theorem readArray_items {value : Cursor → Reading (Node × Cursor)} {items : List Node}
    (opens : (skipSpace c.next).peek ≠ some ']')
    (read : readItems value bound c.next = .ok (items, after)) :
    readArray value bound c = .ok (.sequence items ⟨c.offset, after.offset⟩, after) := by
  -- Without a bound nothing is read, and with one white space in front of the items does not matter.
  cases bound with
  | zero => cases read
  | succ bound =>
    simp only [readArray, if_neg opens, readItems_skipSpace, read, bind, Except.bind]

/-- Members behind a brace are read as an object. -/
theorem readObject_members {value : Cursor → Reading (Node × Cursor)} {entries : List (Entry Node)}
    (opens : (skipSpace c.next).peek ≠ some '\x7d')
    (read : readMembers value bound bound [] c.next = .ok (entries, after)) :
    readObject value bound c = .ok (.mapping entries ⟨c.offset, after.offset⟩, after) := by
  -- As with the items of an array.
  cases bound with
  | zero => cases read
  | succ bound =>
    simp only [readObject, if_neg opens, readMembers_skipSpace, read, bind, Except.bind]

/-- Items do not begin with a bracket that closes their array. -/
theorem peek_elements {start : Nat} {tail : List Char} {items : List Node}
    (inside : Elements (readNatural? 16) start text items) (passed : c.Passes (text ++ tail) after) :
    (skipSpace c).peek ≠ some ']' := by
  obtain ⟨space, first, rest, rfl, blank, begins⟩ := inside.first
  rw [List.append_assoc] at passed
  rw [peek_skipSpace blank passed begins.not_space]
  simpa using begins.ne (by decide)

/-- Members begin with the quote of a key, not with the brace that closes their object. -/
theorem peek_members {start : Nat} {tail : List Char} {entries : List (Entry Node)}
    (inside : Members (readNatural? 16) start text entries)
    (passed : c.Passes (text ++ tail) after) : (skipSpace c).peek ≠ some '\x7d' := by
  obtain ⟨space, rest, rfl, blank⟩ := inside.first
  rw [List.append_assoc] at passed
  rw [peek_skipSpace blank passed rfl]
  decide

mutual

/-- A value of the grammar is read. -/
-- By recursion on the derivation: the reader is led along its productions. The bounds count the
-- characters that are left, and the room the levels that the value still has.
theorem read_value : ∀ {start : Nat} {text : List Char} {node : Node},
    Value (readNatural? 16) start text node → ∀ c after bound room,
    c.Passes text after → c.offset = start → Stops inNumber after.rest → c.left ≤ bound →
    node.Distinct → node.toJson.depth ≤ room → readValue bound room c = .ok (node, after)
  | _, _, _, .leaf spelled => by
    rintro c after bound room passed rfl stops enough _ _
    exact readValue_of_leaf spelled passed stops enough
  | _, _, _, @Value.emptyArray _ start space blank => by
    rintro c after bound room passed rfl _ _ _ fits
    cases room with
    | zero => exact absurd fits (Nat.not_succ_le_zero _)
    | succ room =>
      simp only [readValue, passed.peek]
      rw [readArray_empty blank passed, passed.offset]
  | _, _, _, @Value.array _ start text items inside => by
    rintro c after bound room passed rfl _ enough distinct fits
    cases room with
    | zero => exact absurd fits (Nat.not_succ_le_zero _)
    | succ room =>
      have opened := Cursor.Passes.next passed.peek
      have left := opened.left
      simp only [List.length_cons] at left
      have each := match distinct with | .sequence each => each
      -- Behind the bracket, fewer characters and one level less are left for the items.
      have read := read_elements inside c.next after bound bound room passed.tail opened.offset
        (by omega) (by omega) each (Node.depth_sequence_le.mp fits)
      simp only [readValue, passed.peek]
      rw [readArray_items (peek_elements inside passed.tail) read, passed.offset]
  | _, _, _, @Value.emptyObject _ start space blank => by
    rintro c after bound room passed rfl _ _ _ fits
    cases room with
    | zero => exact absurd fits (Nat.not_succ_le_zero _)
    | succ room =>
      simp only [readValue, passed.peek]
      rw [readObject_empty blank passed, passed.offset]
  | _, _, _, @Value.object _ start text entries inside => by
    rintro c after bound room passed rfl _ enough distinct fits
    cases room with
    | zero => exact absurd fits (Nat.not_succ_le_zero _)
    | succ room =>
      have opened := Cursor.Passes.next passed.peek
      have left := opened.left
      simp only [List.length_cons] at left
      have fresh : FreshEntries [] entries :=
        match distinct with | .mapping keys below => ⟨keys, by simp, below⟩
      -- Behind the brace no key was seen yet.
      have read := read_members inside c.next after bound bound room [] passed.tail opened.offset
        (by omega) (by omega) fresh (Node.depth_mapping_le.mp fits)
      simp only [readValue, passed.peek]
      rw [readObject_members (peek_members inside passed.tail) read, passed.offset]

/-- An element of the grammar is read with the white space around it. -/
theorem read_element : ∀ {start : Nat} {text : List Char} {node : Node},
    Element (readNatural? 16) start text node → ∀ c after bound room,
    c.Passes text after → c.offset = start → Ends after.rest → c.left ≤ bound →
    node.Distinct → node.toJson.depth ≤ room →
    ∃ d, readValue bound room (skipSpace c) = .ok (node, d) ∧ skipSpace d = after
  | _, _, _, @Element.mk _ start before text behind node opens value closes => by
    rintro c after bound room passed rfl ends enough distinct fits
    obtain ⟨d, first, more⟩ := passed.split
    obtain ⟨e, middle, last⟩ := more.split
    have left := first.left
    -- The value begins where the white space in front of it ends.
    have skipped : skipSpace c = d := by
      obtain ⟨letter, rest, rfl, begins⟩ := value.first
      exact skipSpace_to opens first middle.rest begins.not_space
    -- White space or what ends the element keeps a number from going on.
    have stops : Stops inNumber e.rest := by
      rw [last.rest]
      exact ends.stops_inNumber closes
    have read := read_value value d e bound room middle first.offset stops (by omega) distinct fits
    rw [skipped]
    exact ⟨e, read, skipSpace_of_passes closes last ends.stops_isSpace⟩

/-- The items of an array of the grammar are read. -/
theorem read_elements : ∀ {start : Nat} {text : List Char} {items : List Node},
    Elements (readNatural? 16) start text items → ∀ c after bound count room,
    c.Passes (text ++ [']']) after → c.offset = start → c.left ≤ bound → c.left ≤ count →
    (∀ item ∈ items, item.Distinct) → (∀ item ∈ items, item.toJson.depth ≤ room) →
    readItems (readValue bound room) count c = .ok (items, after)
  | _, _, _, @Elements.last _ start text node item => by
    rintro c after bound count room passed rfl enough counted distinct fits
    -- The last item ends at the bracket.
    obtain ⟨d, count, rfl, first, bracket, _⟩ := passed.part counted
    have ends : Ends d.rest := by
      rw [bracket.rest]
      exact ends_closing (Or.inl rfl)
    obtain ⟨e, read, skipped⟩ := read_element item c d bound room first rfl ends enough
      (distinct node List.mem_cons_self) (fits node List.mem_cons_self)
    unfold readItems
    simp only [read, bind, Except.bind, skipped, bracket.peek]
    rw [bracket.tail.eq_of_nil]
  | _, _, _, @Elements.more _ start text rest node nodes item others => by
    rintro c after bound count room passed rfl enough counted distinct fits
    rw [List.append_assoc] at passed
    -- An earlier item ends at its comma, behind which fewer characters are left.
    obtain ⟨d, count, rfl, first, comma, fewer, left, begins⟩ := passed.part counted
    have ends : Ends d.rest := by
      rw [comma.rest]
      exact ends_comma
    obtain ⟨e, read, skipped⟩ := read_element item c d bound room first rfl ends enough
      (distinct node List.mem_cons_self) (fits node List.mem_cons_self)
    have more := read_elements others d.next after bound count room comma.tail begins
      (Nat.le_trans left enough) fewer
      (fun later member => distinct later (List.mem_cons_of_mem _ member))
      (fun later member => fits later (List.mem_cons_of_mem _ member))
    unfold readItems
    simp only [read, bind, Except.bind, skipped, comma.peek, more]

/-- A member of the grammar is read with its key and its colon. -/
theorem read_member : ∀ {start : Nat} {text : List Char} {entry : Entry Node},
    Member (readNatural? 16) start text entry → ∀ c after bound room,
    c.Passes text after → c.offset = start → Ends after.rest → c.left ≤ bound →
    entry.value.Distinct → entry.value.toJson.depth ≤ room →
    ∃ named colon d, (skipSpace c).peek = some '"' ∧
      readString bound (skipSpace c) = .ok ((entry.key, entry.keySpan), named) ∧
      expect ':' (skipSpace named) = .ok colon ∧
      readValue bound room (skipSpace colon) = .ok (entry.value, d) ∧ skipSpace d = after
  -- What is passed is cut into the white space, the key, what stands up to the colon, and the
  -- value.
  | _, _, _, @Member.mk _ start before name between text key node opens quoted parts value => by
    rintro c after bound room passed rfl ends enough distinct fits
    obtain ⟨d, first, more⟩ := passed.split
    obtain ⟨e, middle, others⟩ := more.split
    obtain ⟨f, spaced, last⟩ := others.split
    have colon := Cursor.Passes.next last.peek
    have skipped : skipSpace c = d := by
      obtain ⟨rest, rfl⟩ := quoted.first
      exact skipSpace_to opens first middle.rest rfl
    have quote : d.peek = some '"' := by
      obtain ⟨rest, rfl⟩ := quoted.first
      exact middle.peek
    have skippedColon : skipSpace e = f := skipSpace_to parts spaced last.rest rfl
    -- What stands up to the colon says where the value begins.
    have upToColon := first.trans (middle.trans spaced)
    have left := first.left
    have leftColon := (upToColon.trans colon).left
    have begins : f.next.offset = c.offset + byteLength (before ++ (name ++ between)) + 1 := by
      rw [colon.offset, upToColon.offset]
      rfl
    obtain ⟨g, read, ended⟩ := read_element value f.next after bound room last.tail begins ends
      (by omega) distinct fits
    have enoughName : d.left ≤ bound := by omega
    have named := (readString_iff enoughName).mpr ⟨name, middle, quoted, rfl⟩
    rw [skipped]
    refine ⟨e, f.next, g, quote, ?_, ?_, read, ended⟩
    · rw [named, first.offset]
    · rw [skippedColon, expect, if_pos last.peek]

/-- The members of an object of the grammar are read. -/
theorem read_members : ∀ {start : Nat} {text : List Char} {entries : List (Entry Node)},
    Members (readNatural? 16) start text entries → ∀ c after bound count room seen,
    c.Passes (text ++ ['\x7d']) after → c.offset = start → c.left ≤ bound → c.left ≤ count →
    FreshEntries seen entries → (∀ entry ∈ entries, entry.value.toJson.depth ≤ room) →
    readMembers (readValue bound room) bound count seen c = .ok (entries, after)
  | _, _, _, @Members.last _ start text entry member => by
    rintro c after bound count room seen passed rfl enough counted fresh fits
    -- The last member ends at the brace.
    obtain ⟨d, count, rfl, first, brace, _⟩ := passed.part counted
    have ends : Ends d.rest := by
      rw [brace.rest]
      exact ends_closing (Or.inr rfl)
    obtain ⟨named, colon, e, quote, string, expected, read, skipped⟩ :=
      read_member member c d bound room first rfl ends enough (fresh.below _ List.mem_cons_self)
        (fits _ List.mem_cons_self)
    have new := refuseRepeated_new (fresh.fresh _ List.mem_cons_self) entry.keySpan.start
    unfold readMembers
    simp only [quote, ne_eq, not_true_eq_false, if_false, string, new, expected, read, bind,
      Except.bind, skipped, brace.peek]
    rw [brace.tail.eq_of_nil]
  | _, _, _, @Members.more _ start text rest entry entries member others => by
    rintro c after bound count room seen passed rfl enough counted fresh fits
    rw [List.append_assoc] at passed
    obtain ⟨d, count, rfl, first, comma, fewer, left, begins⟩ := passed.part counted
    have ends : Ends d.rest := by
      rw [comma.rest]
      exact ends_comma
    -- The key joins those seen before the other members are read.
    obtain ⟨named, colon, e, quote, string, expected, read, skipped⟩ :=
      read_member member c d bound room first rfl ends enough (fresh.below _ List.mem_cons_self)
        (fits _ List.mem_cons_self)
    have new := refuseRepeated_new (fresh.fresh _ List.mem_cons_self) entry.keySpan.start
    have more := read_members others d.next after bound count room (entry.key :: seen) comma.tail
      begins (Nat.le_trans left enough) fewer fresh.tail
      (fun later member => fits later (List.mem_cons_of_mem _ member))
    unfold readMembers
    simp only [quote, ne_eq, not_true_eq_false, if_false, string, new, expected, read, bind,
      Except.bind, skipped, comma.peek, more]

end

/-! ### Documents -/

/-- Where a text begins to be read, and what is left to read there. -/
theorem document_iff {unit? : List Char → Option Nat} {root : Node} :
    Document unit? text root ↔
      Element unit? (Cursor.start text).skipByteOrderMark.offset
        (Cursor.start text).skipByteOrderMark.rest root := by
  unfold Cursor.skipByteOrderMark
  constructor
  -- The mark is skipped exactly if the text begins with one.
  · rintro (⟨unmarked, value⟩ | ⟨value⟩)
    · have other : (Cursor.start text).peek ≠ some '\uFEFF' := unmarked
      rw [if_neg other]
      exact value
    · exact value
  · intro value
    split at value
    · rename_i mark
      have passed := Cursor.Passes.next mark
      rw [passed.offset] at value
      have whole : text = '\uFEFF' :: (Cursor.start text).next.rest := passed.rest
      rw [whole]
      exact .marked value
    · rename_i unmarked
      exact .plain unmarked value

/-- A text is read as JSON exactly if the grammar derives it, no object in it repeats a key, and it
is not nested too deep. -/
theorem read_iff {root : Node} :
    read text = .ok root ↔
      Document (readNatural? 16) text root ∧ root.Distinct ∧ root.toJson.depth ≤ maxDepth := by
  have mark := Cursor.left_skipByteOrderMark_le (Cursor.start text)
  have whole : (Cursor.start text).left = text.length := rfl
  rw [document_iff]
  constructor
  · intro answered
    have distinct := (read_pays answered).2
    unfold read at answered
    obtain ⟨⟨node, behind⟩, value, answered⟩ := bind_eq_ok.mp answered
    obtain ⟨inside, passed, element, fits⟩ :=
      (readValue_derives text.length maxDepth).element (by omega) value
    dsimp only at answered
    split at answered
    · rename_i atEnd
      cases answered
      -- The element is everything that was left.
      have nothing : (skipSpace behind).rest = [] := List.isEmpty_iff.mp atEnd
      rw [passed.rest, nothing, List.append_nil]
      exact ⟨element, distinct, fits⟩
    · simp at answered
  · rintro ⟨element, distinct, fits⟩
    -- The element is the whole text behind the mark, so nothing stops its reading.
    obtain ⟨after, passed, nothing⟩ := (Cursor.start text).skipByteOrderMark.passes_rest
    have ends : Ends after.rest := by
      rw [nothing]
      exact nofun
    obtain ⟨d, value, skipped⟩ :=
      read_element element _ after text.length maxDepth passed rfl ends (by omega) distinct fits
    unfold read
    simp only [value, bind, Except.bind, skipped, Cursor.atEnd, nothing, List.isEmpty_nil, if_true]

end JsonText

end SpecTrace
