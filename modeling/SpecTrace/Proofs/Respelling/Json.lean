import SpecTrace.Proofs.Json.Strings
import SpecTrace.Proofs.Respelling.Nodes

/-! JSON is read alike from two spellings of a text. -/

namespace SpecTrace

/-- A character with a value as a digit is no break. -/
theorem digitValue?_inside {radix : Nat} (small : radix ≤ 16) {ch : Char} {value : Nat}
    (digit : digitValue? radix ch = some value) : isBreak ch = false := by
  cases breaks : isBreak ch with
  | false => rfl
  | true =>
    simp only [isBreak, Bool.or_eq_true, decide_eq_true_eq] at breaks
    -- Both characters of breaks have a value above every digit.
    have large : digitValue? radix ch = none := by
      unfold digitValue?
      rcases breaks with rfl | rfl <;> simp <;> exact small
    rw [large] at digit
    cases digit

/-- Digits that are read stand on one line. -/
theorem readDigits?_inside {radix : Nat} (small : radix ≤ 16) {digits : List Char}
    {value number : Nat} (read : readDigits? radix value digits = some number) :
    ∀ ch ∈ digits, isBreak ch = false := by
  -- Digit by digit, with the value of those in front.
  induction digits generalizing value with
  | nil => simp
  | cons ch rest ih =>
    simp only [readDigits?] at read
    obtain ⟨digit, one, others⟩ := Option.bind_eq_some_iff.mp read
    exact List.forall_mem_cons.mpr ⟨digitValue?_inside small one, ih others⟩

/-- A number that is read stands on one line. -/
theorem readNatural?_inside {digits : List Char} {number : Nat}
    (read : readNatural? 16 digits = some number) : ∀ ch ∈ digits, isBreak ch = false := by
  -- A sign stands on the line as digits do.
  unfold readNatural? at read
  split at read
  · cases read
  · cases read
  · exact List.forall_mem_cons.mpr ⟨rfl, readDigits?_inside (by decide) read⟩
  · exact readDigits?_inside (by decide) read

namespace Respelling

variable {way : Respelling} {aligned : Prop} {n : Nat} {c d : Cursor}

/-- Digits on one line are cut off on both sides or on neither. -/
theorem Alike.cut (alike : way.Alike aligned n c d) {digits : List Char}
    (line : ∀ ch ∈ digits, isBreak ch = false) (bytes : Nat) :
    takeExactBytes? bytes d.rest = some digits ↔ takeExactBytes? bytes c.rest = some digits := by
  -- They are cut off where the text goes on with them and they take that many bytes.
  have cut_iff : ∀ e : Cursor, takeExactBytes? bytes e.rest = some digits ↔
      e.startsWith digits = true ∧ byteLength digits = bytes := by
    intro e
    unfold Cursor.startsWith
    rw [List.isPrefixOf_iff_prefix]
    constructor
    · exact takeExactBytes?_eq_some
    · rintro ⟨⟨tail, split⟩, rfl⟩
      rw [← split]
      exact takeExactBytes?_append digits tail
  rw [cut_iff, cut_iff, alike.startsWith line]

/-- What a number of bytes are decoded to, if there are as many. -/
def decodeBytes {α : Type} (decode : List Char → Option α) (bytes : Nat)
    (truncated invalid : SyntaxFault) (c : Cursor) : Reading (α × Cursor) :=
  match takeExactBytes? bytes c.rest with
  | none => c.fail truncated
  | some digits =>
    match decode digits with
    | none => c.fail invalid
    | some a => .ok (a, c.advance digits.length)

/-- Bytes are decoded alike, if whatever can be decoded stands on one line. -/
theorem Alike.decodeBytes_agree {α : Type} (alike : way.Alike aligned n c d)
    {decode : List Char → Option α}
    (line : ∀ {digits a}, decode digits = some a → ∀ ch ∈ digits, isBreak ch = false)
    (bytes : Nat) (truncated invalid : SyntaxFault) :
    way.Agree (Both Eq (way.Alike aligned n)) (decodeBytes decode bytes truncated invalid c)
      (decodeBytes decode bytes truncated invalid d) := by
  by_cases read : ∃ digits a, takeExactBytes? bytes c.rest = some digits ∧ decode digits = some a
  · obtain ⟨digits, a, here, decoded⟩ := read
    have there := (alike.cut (line decoded) bytes).mpr here
    obtain ⟨left, _⟩ := takeExactBytes?_eq_some here
    have abreast := alike.word (line decoded) (List.isPrefixOf_iff_prefix.mpr left)
    unfold decodeBytes
    simp only [here, there, decoded]
    exact .ok ⟨rfl, alike.pass abreast⟩
  · -- What could be decoded on the other side could be decoded here, so the fault only tells
    -- whether the text was long enough.
    have failed : ∀ e : Cursor, e = c ∨ e = d → decodeBytes decode bytes truncated invalid e =
        e.fail (if (takeExactBytes? bytes e.rest).isNone then truncated else invalid) := by
      intro e side
      unfold decodeBytes
      cases cut : takeExactBytes? bytes e.rest with
      | none => rfl
      | some digits =>
        have undecoded : decode digits = none := by
          refine Option.eq_none_iff_forall_ne_some.mpr fun a decoded =>
            read ⟨digits, a, ?_, decoded⟩
          rcases side with rfl | rfl
          · exact cut
          · exact (alike.cut (line decoded) bytes).mp cut
        simp [undecoded]
    rw [failed c (.inl rfl), failed d (.inr rfl)]
    exact .fail_by alike fun rest =>
      if (takeExactBytes? bytes rest).isNone then truncated else invalid

end Respelling

namespace JsonText

open Respelling

variable {way : Respelling} {aligned : Prop} {n bound otherBound began otherBegan : Nat}
  {c d : Cursor}

/-- White space is skipped alike. -/
theorem skipSpace_alike (alike : way.Alike aligned n c d) :
    way.Alike aligned n (skipSpace c) (skipSpace d) := by
  -- At the end nothing is skipped.
  have stays : ∀ {e : Cursor}, e.rest = [] → skipSpace e = e := by
    intro e ended
    simp [skipSpace, Cursor.skipWhile, ended, Cursor.advance]
  -- White space that is passed is part of what is skipped.
  have past : ∀ {e after : Cursor} {text : List Char}, e.Passes text after →
      (∀ ch ∈ text, isSpace ch = true) → skipSpace e = skipSpace after := by
    intro e after text passed space
    unfold skipSpace Cursor.skipWhile
    rw [passed.rest, List.takeWhile_append_of_pos space, List.length_append, passed.moved]
    rw [Cursor.advance_add]
  -- By induction on the characters that are left: line breaks are white space of unequal length.
  induction n generalizing aligned c d with
  | zero =>
    cases alike.facing with
    | stop left right =>
      rw [stays left, stays right]
      exact alike
  | succ n ih =>
    cases alike.facing with
    | stop left right =>
      rw [stays left, stays right]
      exact alike
    | @char _ ch _ _ inside left right further =>
      cases space : isSpace ch with
      | true =>
        rw [past (.next left) (by simpa using space), past (.next right) (by simpa using space)]
        exact (ih further).within alike
      | false =>
        -- Any other character ends the white space on both sides.
        have here : ∀ {e : Cursor}, e.peek = some ch → skipSpace e = e := by
          intro e there
          unfold skipSpace Cursor.skipWhile
          rw [Cursor.rest_of_peek there, List.takeWhile_cons, space]
          rfl
        rw [here left, here right]
        exact alike
    | line ends otherEnds left right further =>
      have space : ∀ {mark rest : List Char}, Terminator mark rest →
          ∀ ch ∈ mark, isSpace ch = true := by
        intro mark rest ends
        cases ends <;> simp [isSpace, isBreak]
      rw [past left (space ends), past right (space otherEnds)]
      exact (ih further).loosen.within alike

/-- A character that has to come next is there on both sides or on neither. -/
theorem expect_agree (alike : way.Alike aligned n c d) {wanted : Char}
    (inside : isBreak wanted = false) :
    way.Agree (way.Alike aligned n) (expect wanted c) (expect wanted d) := by
  refine .ite (alike.peek_iff inside) (fun there => .ok ?_) fun _ => .fail alike _
  exact alike.pass (.next inside there ((alike.peek_iff inside).mpr there))

/-- A code unit is spelled by four bytes. -/
theorem readCodeUnit_eq (c : Cursor) :
    readCodeUnit c =
      decodeBytes (readNatural? 16) 4 .truncatedUnicodeEscape .invalidUnicodeEscape c := by
  -- Both take the four bytes first and then read them as a number.
  unfold readCodeUnit decodeBytes
  cases takeExactBytes? 4 c.rest with
  | none => rfl
  | some digits =>
    dsimp only
    cases readNatural? 16 digits <;> rfl

/-- A code unit is read alike. -/
theorem readCodeUnit_agree (alike : way.Alike aligned n c d) :
    way.Agree (Both Eq (way.Alike aligned n)) (readCodeUnit c) (readCodeUnit d) := by
  rw [readCodeUnit_eq, readCodeUnit_eq]
  exact alike.decodeBytes_agree readNatural?_inside 4 _ _

/-- A code point makes a character on both sides or on neither. -/
theorem decode_agree (alike : way.Alike aligned n c d) (code : Nat) :
    way.Agree (Both Eq (way.Alike aligned n))
      (match charOfCode? code with
        | some decoded => .ok (decoded, c)
        | none => c.fail .invalidUnicodeEscape)
      (match charOfCode? code with
        | some decoded => .ok (decoded, d)
        | none => d.fail .invalidUnicodeEscape) := by
  cases charOfCode? code with
  | some decoded => exact .ok ⟨rfl, alike⟩
  | none => exact .fail alike _

/-- A unicode escape is read alike. -/
theorem readUnicodeEscape_agree (alike : way.Alike aligned n c d) :
    way.Agree (Both Eq (way.Alike aligned n)) (readUnicodeEscape c) (readUnicodeEscape d) := by
  have line : ∀ ch ∈ ['\\', 'u'], isBreak ch = false := unbroken_of_all rfl
  unfold readUnicodeEscape
  -- The bounds of surrogates are too large to be computed with.
  obtain ⟨high, low, above, isHigh, isLow, isAbove⟩ :
      ∃ high low above, high = 0xD800 ∧ low = 0xDC00 ∧ above = 0xE000 := ⟨_, _, _, rfl, rfl, rfl⟩
  rw [← isHigh, ← isLow, ← isAbove]
  refine (readCodeUnit_agree alike).bind ?_
  rintro ⟨first, c⟩ ⟨_, d⟩ ⟨rfl, further⟩
  refine .ite Iff.rfl (fun _ => ?_) fun _ => decode_agree further _
  -- A high surrogate needs a second escape behind it.
  rw [further.startsWith line]
  refine .ite Iff.rfl (fun _ => .fail further _) fun there => ?_
  have behind := further.pass (further.word line (by simpa using there))
  refine (readCodeUnit_agree behind).bind ?_
  rintro ⟨second, c⟩ ⟨_, d⟩ ⟨rfl, last⟩
  exact .ite Iff.rfl (fun _ => decode_agree last _) fun _ => .fail last _

/-- A letter after a backslash begins a unicode escape or stands for a character. -/
theorem readEscape_letter {ch : Char} (there : c.peek = some ch) :
    readEscape c =
      if ch = 'u' then readUnicodeEscape c.next
      else
        match shortEscape? ch with
        | some decoded => .ok (decoded, c.next)
        | none => c.fail .invalidEscape := by
  -- The match singles out the letter of a unicode escape, and all others are in its last branch.
  unfold readEscape
  rw [there]
  split
  · rename_i ended
    cases ended
  · rename_i unicode
    cases unicode
    rfl
  · rename_i other same
    cases same
    exact (if_neg other).symm

/-- What stands after a backslash is read alike. -/
theorem readEscape_agree (alike : way.Alike aligned n c d) :
    way.Agree (Both Eq (way.Alike aligned n)) (readEscape c) (readEscape d) := by
  cases alike.facing with
  | stop left right =>
    unfold readEscape Cursor.peek
    rw [left, right]
    exact .fail alike _
  | @char _ ch _ _ inside left right further =>
    rw [readEscape_letter left, readEscape_letter right]
    have behind := further.within alike
    refine .ite Iff.rfl (fun _ => readUnicodeEscape_agree behind) fun _ => ?_
    cases shortEscape? ch with
    | some decoded => exact .ok ⟨rfl, behind⟩
    | none => exact .fail alike _
  | line ends otherEnds left right further =>
    -- No break stands for a character.
    have invalid : ∀ {mark : List Char} {e after : Cursor}, Terminator mark after.rest →
        e.Passes mark after → readEscape e = e.fail .invalidEscape := by
      intro mark e after ends passed
      obtain ⟨ch, there, breaks⟩ := ends.peek passed
      rw [readEscape_letter there]
      rcases break_cases breaks with rfl | rfl <;> rfl
    rw [invalid ends left, invalid otherEnds right]
    exact .fail alike _

/-- At the end of the text a string has not ended. -/
theorem readStringRest_end {began : Nat} (ended : c.rest = []) (bound : Nat) (read : List Char) :
    readStringRest began bound read c = .error ⟨began, .unterminatedString⟩ := by
  -- With or without steps left, the answer is the same fault.
  cases bound with
  | zero => rfl
  | succ bound =>
    unfold readStringRest Cursor.peek
    rw [ended]
    rfl

/-- The rest of a string is read alike. -/
theorem readStringRest_agree (alike : way.Alike aligned n c d)
    (begins : way.Meets began otherBegan) (read : List Char) (room : n ≤ bound)
    (otherRoom : n ≤ otherBound) :
    way.Agree (Both Eq (way.Alike aligned n)) (readStringRest began bound read c)
      (readStringRest otherBegan otherBound read d) := by
  -- By induction on the characters that are left, not on the bounds, which differ between the
  -- texts.
  induction n generalizing aligned bound otherBound read c d with
  | zero =>
    cases alike.facing with
    | stop left right =>
      rw [readStringRest_end left, readStringRest_end right]
      exact .fault begins.shifts _
  | succ n ih =>
    obtain ⟨bound, rfl⟩ : ∃ more, bound = more + 1 := ⟨bound - 1, by omega⟩
    obtain ⟨otherBound, rfl⟩ : ∃ more, otherBound = more + 1 := ⟨otherBound - 1, by omega⟩
    have longer : ∀ {r s : Reading (String × Cursor)},
        way.Agree (Both Eq (way.Alike aligned n)) r s →
        way.Agree (Both Eq (way.Alike aligned (n + 1))) r s := fun agree =>
      agree.imp fun _ _ both => ⟨both.1, both.2.within alike⟩
    cases alike.facing with
    | stop left right =>
      rw [readStringRest_end left, readStringRest_end right]
      exact .fault begins.shifts _
    | char inside left right further =>
      -- The closing quote, an escape, a control character, or a character of the string.
      rw [readStringRest_char left, readStringRest_char right]
      refine .ite Iff.rfl (fun _ => .ok ⟨rfl, further.within alike⟩) fun _ => ?_
      refine .ite Iff.rfl (fun _ => longer ?_) fun _ => ?_
      · refine (readEscape_agree further).bind ?_
        rintro ⟨decoded, c⟩ ⟨_, d⟩ ⟨rfl, behind⟩
        exact ih behind _ (by omega) (by omega)
      · exact .ite Iff.rfl (fun _ => .fail alike _) fun _ =>
          longer (ih further _ (by omega) (by omega))
    | line ends otherEnds left right further =>
      -- Every break is a control character.
      have control : ∀ {mark : List Char} {e after : Cursor} {began bound : Nat},
          Terminator mark after.rest → e.Passes mark after →
          readStringRest began (bound + 1) read e = e.fail .controlCharacter := by
        intro mark e after began bound ends passed
        obtain ⟨ch, there, breaks⟩ := ends.peek passed
        rw [readStringRest_char there]
        rcases break_cases breaks with rfl | rfl <;> rfl
      rw [control ends left, control otherEnds right]
      exact .fail alike _

/-- A string is read alike. -/
theorem readString_agree (alike : way.Alike aligned n c d) (room : n ≤ bound)
    (otherRoom : n ≤ otherBound) :
    way.Agree (Both (Both Eq way.SameSpan) (way.Alike aligned n)) (readString bound c)
      (readString otherBound d) := by
  -- The quote, the text up to the next quote and the span are alike, one after the other.
  refine (expect_agree alike rfl).bind fun _ _ inside => ?_
  refine (readStringRest_agree inside alike.meets [] room otherRoom).bind ?_
  rintro ⟨text, _⟩ ⟨_, _⟩ ⟨rfl, after⟩
  exact .ok ⟨⟨rfl, alike.meets.span after.meets⟩, after⟩

/-- A word is read alike. -/
theorem readWord_agree (alike : way.Alike aligned n c d) {word : List Char}
    (line : ∀ ch ∈ word, isBreak ch = false) (value : Scalar) :
    way.Agree (Both way.Same (way.Alike aligned n)) (readWord word value c)
      (readWord word value d) := by
  -- A word stands on one line, so it begins here on both sides or on neither.
  unfold readWord
  rw [alike.startsWith line]
  refine .ite Iff.rfl (fun there => ?_) fun _ => .fail alike _
  have abreast := alike.word line there
  exact .ok ⟨alike.scalar_same abreast value, alike.pass abreast⟩

/-! ### Numbers -/

/-- Both readers of a part of a number pass the same characters of a line. -/
theorem expectDigits_agree (alike : way.Alike aligned n c d) (fault : SyntaxFault) :
    way.Agree (Abreast c d) (expectDigits fault c) (expectDigits fault d) := by
  unfold expectDigits
  -- Digits end at the end of a line at the latest.
  have digits : ∀ ch, isBreak ch = true → ch.isDigit = false := by
    intro ch breaks
    rcases break_cases breaks with rfl | rfl <;> rfl
  cases alike.facing with
  | stop left right =>
    unfold Cursor.peek
    rw [left, right]
    exact .fail alike _
  | char _ left right _ =>
    rw [left, right]
    exact .ite Iff.rfl (fun _ => .ok (alike.skipWhile digits)) fun _ => .fail alike _
  | line ends otherEnds left right _ =>
    obtain ⟨ch, there, breaks⟩ := ends.peek left
    obtain ⟨other, otherThere, otherBreaks⟩ := otherEnds.peek right
    rw [there, otherThere]
    dsimp only
    rw [digits ch breaks, digits other otherBreaks]
    exact .fail alike _

/-- The digits before a point are read alike. -/
theorem expectWhole_agree (alike : way.Alike aligned n c d) :
    way.Agree (Abreast c d) (expectWhole c) (expectWhole d) :=
  .ite (alike.peek_iff rfl) (fun zero => .ok (alike.step_abreast rfl zero)) fun _ =>
    expectDigits_agree alike _

/-- A fraction is read alike. -/
theorem expectFraction_agree (alike : way.Alike aligned n c d) :
    way.Agree (Abreast c d) (expectFraction c) (expectFraction d) := by
  refine .ite (alike.peek_iff rfl) (fun point => ?_) fun _ => .ok (.refl c d)
  have abreast := alike.step_abreast rfl point
  exact (expectDigits_agree (alike.pass abreast) _).imp fun _ _ => abreast.trans

/-- An exponent is read alike. -/
theorem expectExponent_agree (alike : way.Alike aligned n c d) :
    way.Agree (Abreast c d) (expectExponent c) (expectExponent d) := by
  refine .ite (or_congr (alike.peek_iff rfl) (alike.peek_iff rfl)) (fun mark => ?_) fun _ =>
    .ok (.refl c d)
  have first : Abreast c d c.next d.next := by
    rcases mark with mark | mark
    · exact alike.step_abreast rfl mark
    · exact alike.step_abreast rfl mark
  have behind := alike.pass first
  -- A sign may stand behind the mark.
  have second : Abreast c.next d.next
      (if c.next.peek = some '+' ∨ c.next.peek = some '-' then c.next.next else c.next)
      (if d.next.peek = some '+' ∨ d.next.peek = some '-' then d.next.next else d.next) := by
    refine .ite (or_congr (behind.peek_iff rfl) (behind.peek_iff rfl)) (fun sign => ?_) fun _ =>
      .refl _ _
    rcases sign with sign | sign
    · exact behind.step_abreast rfl sign
    · exact behind.step_abreast rfl sign
  exact (expectDigits_agree (behind.pass second) _).imp fun _ _ => (first.trans second).trans

/-- A number is read alike. -/
theorem readNumber_agree (alike : way.Alike aligned n c d) :
    way.Agree (Both way.Same (way.Alike aligned n)) (readNumber c) (readNumber d) := by
  have minus : Abreast c d (if c.peek = some '-' then c.next else c)
      (if d.peek = some '-' then d.next else d) :=
    .ite (alike.peek_iff rfl) (fun sign => alike.step_abreast rfl sign) fun _ => .refl _ _
  unfold readNumber
  -- Each part is passed by the same characters, and so are all of them.
  refine (expectWhole_agree (alike.pass minus)).bind fun _ _ whole => ?_
  have first := minus.trans whole
  refine (expectFraction_agree (alike.pass first)).bind fun _ _ fraction => ?_
  have second := first.trans fraction
  refine (expectExponent_agree (alike.pass second)).bind fun cEnd dEnd exponent => ?_
  have abreast := second.trans exponent
  -- The number is spelled by the same characters.
  have text : d.textUpTo dEnd = c.textUpTo cEnd := by
    obtain ⟨word, _, left, right⟩ := abreast
    unfold Cursor.textUpTo
    rw [left.textUpTo, right.textUpTo]
  dsimp only
  rw [text]
  cases JsonNumber.read? (c.textUpTo cEnd) with
  | some value => exact .ok ⟨alike.scalar_same abreast _, alike.pass abreast⟩
  | none => exact .fail alike _

/-! ### Collections -/

/-- Two readers that answer the same nodes wherever they stand alike. -/
def ReadsAlike (way : Respelling) (read other : Cursor → Reading (Node × Cursor)) : Prop :=
  ∀ n c d, way.Alike False n c d → way.Agree (Both way.Same (way.Alike False n)) (read c) (other d)

variable {value otherValue : Cursor → Reading (Node × Cursor)}

/-- Behind an item there is a comma with more items, or the closing bracket. -/
theorem readItems_succ (value : Cursor → Reading (Node × Cursor)) (bound : Nat) (c : Cursor) :
    readItems value (bound + 1) c = (do
      let (item, c) ← value (skipSpace c)
      let c := skipSpace c
      if c.peek = some ',' then do
        let (rest, after) ← readItems value bound c.next
        .ok (item :: rest, after)
      else if c.peek = some ']' then .ok ([item], c.next)
      else c.fail (.expectedCommaOr ']')) := by
  -- The reader matches on what follows the item; here its cases are told apart by equations.
  rw [readItems]
  refine bind_congr fun read => ?_
  obtain ⟨item, c⟩ := read
  dsimp only
  split <;> simp_all

/-- Items are read alike. -/
theorem readItems_agree (follows : ReadsAlike way value otherValue)
    (alike : way.Alike False n c d) (room : n < bound) (otherRoom : n < otherBound) :
    way.Agree (Both way.SameItems (way.Alike False n)) (readItems value bound c)
      (readItems otherValue otherBound d) := by
  -- By induction on the characters that are left, of which every item leaves fewer to the next one.
  induction n using Nat.strongRecOn generalizing bound otherBound c d with
  | ind n ih =>
    obtain ⟨bound, rfl⟩ : ∃ more, bound = more + 1 := ⟨bound - 1, by omega⟩
    obtain ⟨otherBound, rfl⟩ : ∃ more, otherBound = more + 1 := ⟨otherBound - 1, by omega⟩
    rw [readItems_succ, readItems_succ]
    refine (follows _ _ _ (skipSpace_alike alike)).bind ?_
    rintro ⟨item, e⟩ ⟨otherItem, f⟩ ⟨same, behind⟩
    have spaced := skipSpace_alike behind
    refine .ite (spaced.peek_iff rfl) (fun comma => ?_) fun _ => ?_
    · -- The comma is one character that is no longer left.
      obtain ⟨m, rfl⟩ := spaced.room_pos comma
      refine (ih m (by omega) (spaced.next rfl comma) (by omega) (by omega)).bind ?_
      rintro ⟨rest, _⟩ ⟨others, _⟩ ⟨more, after⟩
      exact .ok ⟨.cons same more, after.within alike⟩
    · refine .ite (spaced.peek_iff rfl) (fun bracket => ?_) fun _ => .fail spaced _
      exact .ok ⟨.cons same .nil, spaced.pass (spaced.step_abreast rfl bracket)⟩

/-- Behind a member there is a comma with more members, or the closing brace. -/
theorem readMembers_succ (value : Cursor → Reading (Node × Cursor)) (stringBound bound : Nat)
    (seen : List String) (c : Cursor) :
    readMembers value stringBound (bound + 1) seen c = (do
      let c := skipSpace c
      if c.peek = some '"' then do
        let ((key, keySpan), c) ← readString stringBound c
        refuseRepeated seen key keySpan.start
        let c ← expect ':' (skipSpace c)
        let (child, c) ← value (skipSpace c)
        let entry : Entry Node := ⟨key, keySpan, child⟩
        let c := skipSpace c
        if c.peek = some ',' then do
          let (rest, after) ← readMembers value stringBound bound (key :: seen) c.next
          .ok (entry :: rest, after)
        else if c.peek = some '\x7d' then .ok ([entry], c.next)
        else c.fail (.expectedCommaOr '\x7d')
      else c.fail .expectedStringKey) := by
  -- Only a quote begins a member, and behind the member the cases are those of items.
  rw [readMembers]
  dsimp only
  by_cases quote : (skipSpace c).peek = some '"'
  · rw [if_neg (not_not_intro quote), if_pos quote]
    refine bind_congr fun named => ?_
    obtain ⟨⟨key, keySpan⟩, c⟩ := named
    refine bind_congr fun _ => bind_congr fun c => bind_congr fun read => ?_
    obtain ⟨child, c⟩ := read
    dsimp only
    split <;> simp_all
  · rw [if_pos quote, if_neg quote]

/-- Members are read alike. -/
theorem readMembers_agree (follows : ReadsAlike way value otherValue) {stringBound : Nat}
    {otherStringBound : Nat} {seen : List String} (alike : way.Alike False n c d)
    (room : n < bound) (otherRoom : n < otherBound) (long : n ≤ stringBound)
    (otherLong : n ≤ otherStringBound) :
    way.Agree (Both way.SameEntries (way.Alike False n))
      (readMembers value stringBound bound seen c)
      (readMembers otherValue otherStringBound otherBound seen d) := by
  -- By induction on the characters that are left, as for items.
  induction n using Nat.strongRecOn generalizing bound otherBound seen c d with
  | ind n ih =>
    obtain ⟨bound, rfl⟩ : ∃ more, bound = more + 1 := ⟨bound - 1, by omega⟩
    obtain ⟨otherBound, rfl⟩ : ∃ more, otherBound = more + 1 := ⟨otherBound - 1, by omega⟩
    rw [readMembers_succ, readMembers_succ]
    have begun := skipSpace_alike alike
    refine .ite (begun.peek_iff rfl) (fun _ => ?_) fun _ => .fail begun _
    refine (readString_agree begun long otherLong).bind ?_
    rintro ⟨⟨key, keySpan⟩, e⟩ ⟨⟨_, otherSpan⟩, f⟩ ⟨⟨rfl, keys⟩, named⟩
    -- Behind the key come the colon and the value, and then a comma or the closing brace.
    refine (refuseRepeated_agree keys.start.shifts seen key).bind fun _ _ _ => ?_
    refine (expect_agree (skipSpace_alike named) rfl).bind fun _ _ colon => ?_
    refine (follows _ _ _ (skipSpace_alike colon)).bind ?_
    rintro ⟨child, e⟩ ⟨otherChild, f⟩ ⟨same, behind⟩
    have spaced := skipSpace_alike behind
    refine .ite (spaced.peek_iff rfl) (fun comma => ?_) fun _ => ?_
    · -- Here too, the comma is no longer left.
      obtain ⟨m, rfl⟩ := spaced.room_pos comma
      refine (ih m (by omega) (spaced.next rfl comma) (by omega) (by omega) (by omega)
        (by omega)).bind ?_
      rintro ⟨rest, _⟩ ⟨others, _⟩ ⟨more, after⟩
      exact .ok ⟨.cons keys same more, after.within alike⟩
    · refine .ite (spaced.peek_iff rfl) (fun brace => ?_) fun _ => .fail spaced _
      exact .ok ⟨.cons keys same .nil, spaced.pass (spaced.step_abreast rfl brace)⟩

/-- An array is read alike. -/
theorem readArray_agree (follows : ReadsAlike way value otherValue)
    (alike : way.Alike False n c d) (bracket : c.peek = some '[') (room : n ≤ bound)
    (otherRoom : n ≤ otherBound) :
    way.Agree (Both way.Same (way.Alike False n)) (readArray value bound c)
      (readArray otherValue otherBound d) := by
  -- The bracket needs room, so the items have one step less. An array with nothing in it is closed
  -- on both sides.
  obtain ⟨m, rfl⟩ := alike.room_pos bracket
  have inside := skipSpace_alike (alike.next rfl bracket)
  refine .ite (inside.peek_iff rfl) (fun closed => ?_) fun _ => ?_
  · have after := inside.pass (inside.step_abreast rfl closed)
    exact .ok ⟨.sequence (alike.meets.span after.meets) .nil, after.within alike⟩
  · refine (readItems_agree follows inside (by omega) (by omega)).bind ?_
    rintro ⟨items, _⟩ ⟨others, _⟩ ⟨same, after⟩
    exact .ok ⟨.sequence (alike.meets.span after.meets) same, after.within alike⟩

/-- An object is read alike. -/
theorem readObject_agree (follows : ReadsAlike way value otherValue)
    (alike : way.Alike False n c d) (brace : c.peek = some '\x7b') (room : n ≤ bound)
    (otherRoom : n ≤ otherBound) :
    way.Agree (Both way.Same (way.Alike False n)) (readObject value bound c)
      (readObject otherValue otherBound d) := by
  -- The brace needs room, so the members have one step less. An object with nothing in it is closed
  -- on both sides.
  obtain ⟨m, rfl⟩ := alike.room_pos brace
  have inside := skipSpace_alike (alike.next rfl brace)
  refine .ite (inside.peek_iff rfl) (fun closed => ?_) fun _ => ?_
  · have after := inside.pass (inside.step_abreast rfl closed)
    exact .ok ⟨.mapping (alike.meets.span after.meets) .nil, after.within alike⟩
  · refine (readMembers_agree follows inside (by omega) (by omega) (by omega)
      (by omega)).bind ?_
    rintro ⟨entries, _⟩ ⟨others, _⟩ ⟨same, after⟩
    exact .ok ⟨.mapping (alike.meets.span after.meets) same, after.within alike⟩

/-- What comes next decides what kind of value is read. -/
theorem readValue_char {room : Nat} {ch : Char} (there : c.peek = some ch) :
    readValue bound room c =
      if ch = '\x7b' then
        match room with
        | 0 => c.fail .nestingTooDeep
        | room + 1 => readObject (readValue bound room) bound c
      else if ch = '[' then
        match room with
        | 0 => c.fail .nestingTooDeep
        | room + 1 => readArray (readValue bound room) bound c
      else if ch = '"' then do
        let ((text, span), after) ← readString bound c
        .ok (.scalar (.string text) span, after)
      else if ch = 't' then readWord ['t', 'r', 'u', 'e'] (.bool true) c
      else if ch = 'f' then readWord ['f', 'a', 'l', 's', 'e'] (.bool false) c
      else if ch = 'n' then readWord ['n', 'u', 'l', 'l'] .null c
      else if ch = '-' ∨ ch.isDigit then readNumber c
      else c.fail .unexpectedCharacter := by
  -- The definition matches on the character in the same order.
  rw [readValue.eq_def]
  dsimp only
  rw [there]
  split
  case h_7 =>
    -- The character is none of those that are told apart first.
    rename_i noBrace noBracket noQuote noTrue noFalse noNull same
    cases same
    rw [if_neg noBrace, if_neg noBracket, if_neg noQuote, if_neg noTrue, if_neg noFalse,
      if_neg noNull]
  case h_8 =>
    rename_i ended
    cases ended
  all_goals
    rename_i same
    cases same
    rfl

/-- No value begins with a break. -/
theorem readValue_break {room : Nat} {ch : Char} (there : c.peek = some ch)
    (breaks : isBreak ch = true) : readValue bound room c = c.fail .unexpectedCharacter := by
  rw [readValue_char there]
  rcases break_cases breaks with rfl | rfl <;> rfl

/-- Behind the end there is no value. -/
theorem readValue_end {room : Nat} (ended : c.rest = []) :
    readValue bound room c = c.fail .unexpectedEnd := by
  rw [readValue.eq_def]
  dsimp only
  unfold Cursor.peek
  rw [ended]
  rfl

/-- Values are read alike, whatever room there is for nesting. -/
theorem readValue_agree (room : Nat) (long : way.text.length ≤ bound)
    (otherLong : way.respelt.length ≤ otherBound) :
    ReadsAlike way (readValue bound room) (readValue otherBound room) := by
  -- By induction on the room for nesting: a collection hands less of it on to its values.
  induction room using Nat.strongRecOn with
  | ind room ih =>
    intro n c d alike
    have long := Nat.le_trans alike.room.1 long
    have otherLong := Nat.le_trans alike.room.2 otherLong
    cases alike.facing with
    -- Neither the end nor a break begins a value.
    | stop left right =>
      rw [readValue_end left, readValue_end right]
      exact .fail alike _
    | line ends otherEnds left right _ =>
      obtain ⟨ch, there, breaks⟩ := ends.peek left
      obtain ⟨other, otherThere, otherBreaks⟩ := otherEnds.peek right
      rw [readValue_break there breaks, readValue_break otherThere otherBreaks]
      exact .fail alike _
    | char _ left right _ =>
      rw [readValue_char left, readValue_char right]
      -- Only collections need room, and the values in them have less of it.
      refine .ite Iff.rfl (fun brace => ?_) fun _ => .ite Iff.rfl (fun bracket => ?_) fun _ => ?_
      · cases room with
        | zero => exact .fail alike _
        | succ room =>
          exact readObject_agree (ih room (Nat.lt_succ_self _)) alike (brace ▸ left) long otherLong
      · cases room with
        | zero => exact .fail alike _
        | succ room =>
          exact readArray_agree (ih room (Nat.lt_succ_self _)) alike (bracket ▸ left) long otherLong
      refine .ite Iff.rfl (fun _ => ?_) fun _ => ?_
      · refine (readString_agree alike long otherLong).bind ?_
        rintro ⟨⟨text, span⟩, _⟩ ⟨⟨_, other⟩, _⟩ ⟨⟨rfl, spans⟩, after⟩
        exact .ok ⟨.scalar spans rfl, after⟩
      refine .ite Iff.rfl (fun _ => readWord_agree alike (unbroken_of_all rfl) _) fun _ => ?_
      refine .ite Iff.rfl (fun _ => readWord_agree alike (unbroken_of_all rfl) _) fun _ => ?_
      refine .ite Iff.rfl (fun _ => readWord_agree alike (unbroken_of_all rfl) _) fun _ => ?_
      exact .ite Iff.rfl (fun _ => readNumber_agree alike) fun _ => .fail alike _

/-- Documents are read alike from where they begin alike. -/
theorem read_agree
    (alike : way.Alike False n (Cursor.start way.text).skipByteOrderMark
      (Cursor.start way.respelt).skipByteOrderMark) :
    way.Agree way.Same (read way.text) (read way.respelt) := by
  -- Behind the root only white space is allowed, and the ends come together.
  refine (readValue_agree maxDepth (Nat.le_refl _) (Nat.le_refl _) _ _ _
    (skipSpace_alike alike)).bind ?_
  rintro ⟨root, e⟩ ⟨other, f⟩ ⟨same, behind⟩
  have spaced := skipSpace_alike behind
  dsimp only
  rw [spaced.atEnd]
  exact .ite Iff.rfl (fun _ => .ok same) fun _ => .fail spaced _

end JsonText

end SpecTrace
