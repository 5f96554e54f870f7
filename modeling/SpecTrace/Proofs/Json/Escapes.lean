import SpecTrace.Document.Format
import SpecTrace.Proofs.Json.Values

/-! A derivation depends on the reader of code units only through the unicode escapes of its text.
So the texts that are read as JSON are those of RFC 8259, and those that differ from one in signs
before the digits of unicode escapes. -/

namespace SpecTrace.Grammar

/-- What stands in the place of digits in every unicode escape of a text: the four characters
behind a `\u` whose backslash is not escaped itself. -/
def unicodeEscapes : List Char → List (List Char)
  | '\\' :: 'u' :: a :: b :: c :: d :: rest => [a, b, c, d] :: unicodeEscapes rest
  | '\\' :: _ :: rest => unicodeEscapes rest
  | _ :: rest => unicodeEscapes rest
  | [] => []

/-- No character but a backslash begins an escape. -/
theorem unicodeEscapes_cons {c : Char} (plain : c ≠ '\\') (rest : List Char) :
    unicodeEscapes (c :: rest) = unicodeEscapes rest := by
  -- The two patterns in front both begin with a backslash.
  rw [unicodeEscapes]
  · rintro a b d e f rfl
    exact absurd rfl plain
  · rintro d rest' rfl
    exact absurd rfl plain

/-- An escape by a single letter is passed. -/
theorem unicodeEscapes_short {letter : Char} (notUnicode : letter ≠ 'u') (rest : List Char) :
    unicodeEscapes ('\\' :: letter :: rest) = unicodeEscapes rest := by
  rw [unicodeEscapes]
  rintro a b c d more rfl
  exact absurd rfl notUnicode

/-- Every unicode escape has four characters in place of its digits. -/
theorem length_unicodeEscapes (text : List Char) :
    ∀ digits ∈ unicodeEscapes text, digits.length = 4 := by
  -- Only the first case puts something on the list, and puts four characters there.
  induction text using unicodeEscapes.induct with
  | case1 a b c d rest ih => simpa [unicodeEscapes] using ih
  -- The other two cases pass a backslash with its letter, or a single character.
  | case2 c rest notUnicode ih =>
    rw [unicodeEscapes]
    · exact ih
    · exact notUnicode
  | case3 c rest notUnicode notEscape ih =>
    rw [unicodeEscapes]
    · exact ih
    · exact notUnicode
    · exact notEscape
  | case4 => simp [unicodeEscapes]

/-- The digits of an escape are read as the code unit that they spell. -/
theorem readNatural?_of_hexUnit? {text digits : List Char} {unit : Nat}
    (member : digits ∈ unicodeEscapes text) (read : hexUnit? digits = some unit) :
    readNatural? 16 digits = some unit := by
  -- The two readers differ on the empty text only, and there are four digits.
  refine readNatural?_of_readDigits? ?_ read
  rintro rfl
  cases length_unicodeEscapes _ _ member

/-- A text of a derivation that holds for a reader of code units: an escape does not reach over its
end, the reader knows every code unit in it, and another reader that knows the same ones derives
the same. -/
structure Carries (unit? : List Char → Option Nat) (text : List Char)
    (derives : (List Char → Option Nat) → Prop) : Prop where
  ends : ∀ rest, unicodeEscapes (text ++ rest) = unicodeEscapes text ++ unicodeEscapes rest
  known : ∀ digits ∈ unicodeEscapes text, ∃ unit, unit? digits = some unit
  agrees : ∀ other : List Char → Option Nat,
    (∀ digits ∈ unicodeEscapes text, ∀ unit, unit? digits = some unit →
      other digits = some unit) → derives other

namespace Carries

variable {unit? : List Char → Option Nat} {text front back : List Char}
  {derives first second : (List Char → Option Nat) → Prop}

/-- Without a backslash there is no escape. -/
theorem plain (bare : ∀ c ∈ text, c ≠ '\\') (holds : ∀ other, derives other) :
    Carries unit? text derives := by
  -- The characters are passed one by one, without any escape on the list.
  have nothing : ∀ rest, unicodeEscapes (text ++ rest) = unicodeEscapes rest := by
    intro rest
    induction text with
    | nil => rfl
    | cons c more ih =>
      rw [List.cons_append, unicodeEscapes_cons (bare c List.mem_cons_self)]
      exact ih fun d member => bare d (List.mem_cons_of_mem _ member)
  have alone : unicodeEscapes text = [] := by simpa [unicodeEscapes] using nothing []
  refine ⟨fun rest => ?_, ?_, fun other _ => holds other⟩
  · rw [nothing, alone, List.nil_append]
  · simp [alone]

/-- Two texts, one behind the other. -/
theorem append (one : Carries unit? front first) (two : Carries unit? back second)
    (both : ∀ other, first other → second other → derives other) :
    Carries unit? (front ++ back) derives := by
  refine ⟨fun rest => ?_, ?_, fun other agree => ?_⟩
  · -- The end of the front is not crossed, and neither is that of the back.
    rw [List.append_assoc, one.ends, two.ends, one.ends, List.append_assoc]
  · rw [one.ends]
    intro digits member
    rcases List.mem_append.mp member with inFront | inBack
    · exact one.known digits inFront
    · exact two.known digits inBack
  -- Each part agrees on its own escapes, which are among those of both.
  · rw [one.ends] at agree
    refine both other (one.agrees other fun digits member => ?_)
      (two.agrees other fun digits member => ?_)
    · exact agree digits (List.mem_append_left _ member)
    · exact agree digits (List.mem_append_right _ member)

/-- A unicode escape in front of a text. -/
theorem unit {a b c d : Char} {unit : Nat} (digits : unit? [a, b, c, d] = some unit)
    (more : Carries unit? text first)
    (both : ∀ other, other [a, b, c, d] = some unit → first other → derives other) :
    Carries unit? ('\\' :: 'u' :: a :: b :: c :: d :: text) derives := by
  refine ⟨fun rest => ?_, ?_, fun other agree => ?_⟩
  · -- The escape is the first on the list, and those of the text behind it follow.
    simp only [List.cons_append, unicodeEscapes, more.ends]
  · simp only [unicodeEscapes, List.forall_mem_cons]
    exact ⟨⟨unit, digits⟩, more.known⟩
  · simp only [unicodeEscapes, List.forall_mem_cons] at agree
    exact both other (agree.1 unit digits) (more.agrees other agree.2)

/-- A text without escapes in front of another one. -/
theorem behind (bare : ∀ c ∈ front, c ≠ '\\') (more : Carries unit? back derives) :
    Carries unit? (front ++ back) derives :=
  have nothing : Carries unit? front fun _ => True := .plain bare fun _ => trivial
  nothing.append more fun _ _ holds => holds

/-- A text without escapes behind another one. -/
theorem before (bare : ∀ c ∈ back, c ≠ '\\') (more : Carries unit? front derives) :
    Carries unit? (front ++ back) derives :=
  have nothing : Carries unit? back fun _ => True := .plain bare fun _ => trivial
  more.append nothing fun _ holds _ => holds

/-- A mark in front of a text. -/
theorem mark {c : Char} (plain : c ≠ '\\') (more : Carries unit? text derives) :
    Carries unit? (c :: text) derives :=
  behind (by simpa using plain : ∀ d ∈ [c], d ≠ '\\') more

/-- What is derived by the text is exchanged. -/
theorem imp (carries : Carries unit? text first) (holds : ∀ other, first other → derives other) :
    Carries unit? text derives :=
  ⟨carries.ends, carries.known, fun other agree => holds other (carries.agrees other agree)⟩

end Carries

variable {unit? : List Char → Option Nat} {start : Nat} {text : List Char}

/-- White space has no backslash in it. -/
theorem IsSpace.no_escape (blank : IsSpace text) : ∀ c ∈ text, c ≠ '\\' := by
  intro c member
  rcases blank c member with rfl | rfl | rfl | rfl <;> decide

/-- No number has a backslash in it. -/
theorem Number.no_escape {parts : Parts} (number : Number text parts) : ∀ c ∈ text, c ≠ '\\' := by
  rintro c member rfl
  exact absurd (number.decimalForm.chars _ member) (by decide)

/-- The characters of a string. -/
theorem Characters.carries {chars : List Char} (inside : Characters unit? text chars) :
    Carries unit? text fun other => Characters other text chars := by
  induction inside with
  | nil => exact .plain nofun fun _ => .nil
  | plain graphic notQuote notEscape more ih =>
    exact (ih.mark notEscape).imp fun _ => .plain graphic notQuote notEscape
  | @escape letter c text chars known more ih =>
    -- The letter of unicode escapes is none of the others.
    have notUnicode : letter ≠ 'u' := by
      rintro rfl
      simp [escapes] at known
    refine ⟨fun rest => ?_, ?_, fun other agree => .escape known (ih.agrees other ?_)⟩
    · simp only [List.cons_append, unicodeEscapes_short notUnicode, ih.ends]
    · simpa only [unicodeEscapes_short notUnicode] using ih.known
    · simpa only [unicodeEscapes_short notUnicode] using agree
  -- A code unit that is known is the same for the other reader, so it still stands alone.
  | unit digits alone more ih =>
    exact .unit digits ih fun _ digits more => .unit digits alone more
  | @pair a b c d a' b' c' d' text chars high low first isHigh second isLow more ih =>
    -- A pair is two escapes, one behind the other.
    have behind : Carries unit? ('\\' :: 'u' :: a' :: b' :: c' :: d' :: text) fun other =>
        other [a', b', c', d'] = some low ∧ Characters other text chars :=
      .unit second ih fun _ digits more => ⟨digits, more⟩
    exact .unit first behind fun _ first others => .pair first isHigh others.1 isLow others.2

/-- A quoted string. -/
theorem Quoted.carries {value : String} (quoted : Quoted unit? text value) :
    Carries unit? text fun other => Quoted other text value := by
  cases quoted with
  | mk inside =>
    -- The quotes around the characters are no escapes.
    exact .mark (by decide) (.before (by simp) (inside.carries.imp fun _ => .mk))

/-- A value without children. -/
theorem Leaf.carries {value : Scalar} (leaf : Leaf unit? text value) :
    Carries unit? text fun other => Leaf other text value := by
  cases leaf with
  | word known =>
    -- The three words are spelled in letters.
    refine .plain ?_ fun _ => .word known
    simp only [words, List.mem_cons, Prod.mk.injEq, List.not_mem_nil, or_false] at known
    rcases known with ⟨rfl, _⟩ | ⟨rfl, _⟩ | ⟨rfl, _⟩ <;> simp
  | number number inRange => exact .plain number.no_escape fun _ => .number number inRange
  | string quoted => exact quoted.carries.imp fun _ => .string

mutual

/-- A value. -/
-- Brackets, braces, commas and colons are no escapes, so every production hands on what its parts
-- carry. The recursion is that of the grammar.
theorem Value.carries : ∀ {start : Nat} {text : List Char} {node : Node},
    Value unit? start text node → Carries unit? text fun other => Value other start text node
  | _, _, _, .leaf spelled => spelled.carries.imp fun _ => .leaf
  | _, _, _, .emptyArray blank =>
    .mark (by decide) (.behind blank.no_escape (.plain (by simp) fun _ => .emptyArray blank))
  | _, _, _, .array inside =>
    .mark (by decide) (.before (by simp) (inside.carries.imp fun _ => .array))
  | _, _, _, .emptyObject blank =>
    .mark (by decide) (.behind blank.no_escape (.plain (by simp) fun _ => .emptyObject blank))
  | _, _, _, .object inside =>
    .mark (by decide) (.before (by simp) (inside.carries.imp fun _ => .object))

/-- A value with white space around it. -/
theorem Element.carries : ∀ {start : Nat} {text : List Char} {node : Node},
    Element unit? start text node → Carries unit? text fun other => Element other start text node
  | _, _, _, .mk opens value closes =>
    .behind opens.no_escape (.before closes.no_escape
      (value.carries.imp fun _ value => .mk opens value closes))

/-- The items of an array. -/
theorem Elements.carries : ∀ {start : Nat} {text : List Char} {items : List Node},
    Elements unit? start text items →
      Carries unit? text fun other => Elements other start text items
  | _, _, _, .last item => item.carries.imp fun _ => .last
  | _, _, _, .more item others =>
    .append item.carries (.mark (by decide) others.carries) fun _ => .more

/-- A member of an object. -/
theorem Member.carries : ∀ {start : Nat} {text : List Char} {entry : Entry Node},
    Member unit? start text entry → Carries unit? text fun other => Member other start text entry
  | _, _, _, .mk opens quoted parts value =>
    -- Both the key and the value carry escapes; only what stands around them does not.
    .behind opens.no_escape (.append quoted.carries
      (.behind parts.no_escape (.mark (by decide) value.carries))
      fun _ quoted value => .mk opens quoted parts value)

/-- The members of an object. -/
theorem Members.carries : ∀ {start : Nat} {text : List Char} {entries : List (Entry Node)},
    Members unit? start text entries →
      Carries unit? text fun other => Members other start text entries
  | _, _, _, .last member => member.carries.imp fun _ => .last
  | _, _, _, .more member others =>
    .append member.carries (.mark (by decide) others.carries) fun _ => .more

end

/-- A document. -/
theorem Document.carries {root : Node} (document : Document unit? text root) :
    Carries unit? text fun other => Document other text root := by
  cases document with
  | plain unmarked value => exact value.carries.imp fun _ => .plain unmarked
  | marked value => exact .mark (by decide) (value.carries.imp fun _ => .marked)

end SpecTrace.Grammar

namespace SpecTrace

/-! ### Which texts are read -/

open Grammar

/-- No sign is a hexadecimal digit. -/
theorem hexUnit?_unsigned {digits : List Char} {unit : Nat} (read : hexUnit? digits = some unit) :
    digits.head? ≠ some '+' := by
  intro plus
  -- A reader without signs finds no value for the plus.
  cases digits with
  | nil => cases plus
  | cons first rest =>
    cases plus
    simp [hexUnit?, readDigits?, digitValue?] at read

/-- A text of RFC 8259 without repeated keys and with at most 512 levels is read. -/
theorem read_of_document {text : String} {root : Node}
    (document : Document hexUnit? text.toList root) (distinct : root.Distinct)
    (fits : root.toJson.depth ≤ 512) : readDocument .json text = .ok root := by
  -- The reader takes every code unit of the grammar for the same.
  refine JsonText.read_iff.mpr ⟨?_, distinct, fits⟩
  exact document.carries.agrees _ fun digits member unit read =>
    readNatural?_of_hexUnit? member read

/-- The texts of RFC 8259 without repeated keys and with at most 512 levels are read as the grammar
has them, and no other text is, but for one whose unicode escapes spell a sign before digits. -/
theorem derived_iff_read (text : String) (root : Node) :
    Document hexUnit? text.toList root ∧ root.Distinct ∧ root.toJson.depth ≤ 512 ↔
      readDocument .json text = .ok root ∧
        ∀ digits ∈ unicodeEscapes text.toList, digits.head? ≠ some '+' := by
  constructor
  · rintro ⟨document, distinct, fits⟩
    refine ⟨read_of_document document distinct fits, fun digits member => ?_⟩
    -- The grammar knows every code unit, so it begins with no sign.
    obtain ⟨unit, read⟩ := document.carries.known digits member
    exact hexUnit?_unsigned read
  · rintro ⟨answered, unsigned⟩
    -- Without signs, a code unit that the reader takes is spelled in digits only.
    obtain ⟨document, distinct, fits⟩ := JsonText.read_iff.mp answered
    refine ⟨document.carries.agrees _ fun digits member unit read => ?_, distinct, fits⟩
    exact readDigits?_of_readNatural? (unsigned digits member) read

/-- A sign in the place of the first digit is read, though the grammar has none there. -/
theorem signed_escape_is_read :
    (∃ root, readDocument .json "\"\\u+041\"" = .ok root) ∧
      ¬∃ root, Document hexUnit? "\"\\u+041\"".toList root := by
  refine ⟨⟨.scalar (.string "A") ⟨0, 8⟩, rfl⟩, ?_⟩
  -- The grammar would have to know the four characters behind the mark.
  rintro ⟨root, document⟩
  obtain ⟨unit, read⟩ := document.carries.known ['+', '0', '4', '1'] (by decide +kernel)
  exact hexUnit?_unsigned read rfl

end SpecTrace
