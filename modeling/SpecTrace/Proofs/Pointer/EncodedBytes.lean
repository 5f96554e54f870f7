import SpecTrace.Proofs.Pointer.Fragment

/-! Fragments are percent-decoded when they are read, but nothing is percent-encoded when they are
written: a pointer is read back exactly if none of its segments looks as if it had encoded bytes. -/

namespace SpecTrace

/-! ### Reading bytes in the middle of a character -/

/-- Only bytes that cannot begin a character continue one. -/
def Utf8State.Sound : Utf8State → Prop
  | .idle => True
  | .inside _ low high _ => 0x80 ≤ low ∧ high ≤ 0xBF

/-- The number of marks that a character leaves if it is broken off. -/
def Utf8State.pending : Utf8State → Nat
  | .idle => 0
  | .inside _ _ _ _ => 1

namespace Utf8

/-- The first byte of a character leads to a sound state, and to one character or mark at most. -/
theorem first_sound (b : Nat) :
    (first b).2.Sound ∧ (first b).1.length + (first b).2.pending = 1 := by
  unfold first
  -- Eight ranges of first bytes, and those that begin nothing.
  split_ifs <;> simp [Utf8State.Sound, Utf8State.pending]

/-- A byte leads from a sound state to a sound one. -/
theorem step_sound {state : Utf8State} (sound : state.Sound) (b : Nat) :
    (step state b).2.Sound := by
  cases state with
  | idle => exact (first_sound b).1
  | inside wanted low high code =>
    simp only [step]
    split
    · -- The character goes on, or this was its last byte.
      split <;> simp [Utf8State.Sound]
    · exact (first_sound b).1

/-- A byte adds one character or mark at most, those of a character that is broken off counted. -/
theorem length_step_le (state : Utf8State) (b : Nat) :
    (step state b).1.length + (step state b).2.pending ≤ state.pending + 1 := by
  cases state with
  | idle =>
    have whole := (first_sound b).2
    simp only [step]
    omega
  | inside wanted low high code =>
    have whole := (first_sound b).2
    simp only [step]
    split
    · split <;> simp [Utf8State.pending]
    · simp only
      -- The character is broken off, and the byte begins the next one.
      have one : (Utf8State.inside wanted low high code).pending = 1 := rfl
      rw [one, List.length_cons]
      omega

/-- The first byte of a character is not one that continues a character. -/
theorem utf8EncodeChar_first (c : Char) :
    ∃ b rest, String.utf8EncodeChar c = b :: rest ∧ (b.toNat < 0x80 ∨ 0xBF < b.toNat) := by
  have valid : c.toNat < 0xD800 ∨ 0xDFFF < c.toNat ∧ c.toNat < 0x110000 := c.valid
  have value : c.val.toNat = c.toNat := rfl
  unfold String.utf8EncodeChar
  simp only [value]
  generalize c.toNat = v at valid
  -- One case for each number of bytes.
  split_ifs with one two three
  · exact ⟨_, _, rfl, Or.inl (by simp; omega)⟩
  · exact ⟨_, _, rfl, Or.inr (by simp; omega)⟩
  · exact ⟨_, _, rfl, Or.inr (by simp; omega)⟩
  · exact ⟨_, _, rfl, Or.inr (by simp; omega)⟩

/-- A character that is encoded behind others is decoded, and breaks off a character before it. -/
theorem decodeFrom_char_sound {state : Utf8State} (sound : state.Sound) (c : Char)
    (rest : List UInt8) :
    decodeFrom state (String.utf8EncodeChar c ++ rest) =
      List.replicate state.pending none ++ some c :: decodeFrom .idle rest := by
  cases state with
  | idle => exact decodeFrom_char c rest
  | inside wanted low high code =>
    obtain ⟨bounded, limit⟩ := sound
    obtain ⟨b, more, shape, other⟩ := utf8EncodeChar_first c
    -- Between characters the same bytes are decoded to the character alone.
    have alone := decodeFrom_char c rest
    rw [shape, List.cons_append, decodeFrom_cons] at alone ⊢
    have outside : ¬ (low ≤ b.toNat ∧ b.toNat ≤ high) := by omega
    simp only [step] at alone
    simp only [step, if_neg outside, Utf8State.pending, List.replicate_one, List.cons_append,
      List.nil_append, alone]

end Utf8

/-! ### Escaped segments -/

/-- A hexadecimal digit stands for itself in an escaped segment. -/
theorem escapeSegmentChar_digit {c : Char} {value : Nat} (digit : digitValue? 16 c = some value) :
    escapeSegmentChar c = [c] := by
  -- Neither a tilde nor a slash is a digit.
  have notTilde : c ≠ '~' := by
    rintro rfl
    cases digit
  have notSlash : c ≠ '/' := by
    rintro rfl
    cases digit
  simp [escapeSegmentChar, notTilde, notSlash]

/-- An escaped text that begins with a hexadecimal digit is one of a text that does. -/
theorem escapeChars_eq_cons {text behind : List Char} {c : Char} {value : Nat}
    (digit : digitValue? 16 c = some value) (shape : escapeChars text = c :: behind) :
    ∃ rest, text = c :: rest ∧ behind = escapeChars rest := by
  cases text with
  | nil => cases shape
  | cons d rest =>
    rw [escapeChars, List.flatMap_cons, escapeSegmentChar] at shape
    -- A tilde or a slash would put a tilde in front.
    split_ifs at shape
    · cases shape
      cases digit
    · cases shape
      cases digit
    · cases shape
      exact ⟨rest, rfl, rfl⟩

namespace Percent

/-- No encoded byte begins with a character in front of a text. -/
def Bare (c : Char) (rest : List Char) : Prop :=
  c = '%' → ∀ high low more, rest = high :: low :: more →
    digitValue? 16 high = none ∨ digitValue? 16 low = none

/-- A text is plain if its rest is and no encoded byte begins it. -/
theorem plain_cons_iff {c : Char} {rest : List Char} :
    Plain (c :: rest) ↔ Bare c rest ∧ Plain rest := by
  constructor
  · intro plain
    refine ⟨?_, plain.inside (List.suffix_cons _ _).isInfix⟩
    rintro rfl high low more rfl
    exact plain [] high low more rfl
  · rintro ⟨bare, plain⟩ front high low more shape
    -- An encoded byte begins with the first character or stands in the rest.
    cases front with
    | nil =>
      obtain ⟨rfl, rest_is⟩ := List.cons.inj shape
      exact bare rfl high low more rest_is
    | cons first front => exact plain front high low more (List.cons.inj shape).2

/-- Where no encoded byte begins, a character stands for its bytes. -/
theorem decode_cons_of_bare {c : Char} {rest : List Char} (bare : Bare c rest) :
    decode (c :: rest) = Utf8.encode [c] ++ decode rest := by
  -- Only a percent sign with two digits behind it is decoded, and these are not both digits.
  by_cases percent : c = '%'
  · subst percent
    rcases rest with _ | ⟨high, _ | ⟨low, more⟩⟩
    · simp [decode]
    · simp [decode]
    · rw [decode]
      rcases bare rfl high low more rfl with missing | missing <;> simp [missing]
  · rw [decode]
    rintro high low more rfl
    exact absurd rfl percent

/-- Only a percent sign begins an encoded byte. -/
theorem bare_of_ne {c : Char} (other : c ≠ '%') (rest : List Char) : Bare c rest :=
  fun percent => absurd percent other

/-- Escaping makes no encoded byte: two digits behind a percent sign stood there before. -/
theorem Bare.escapeChars {c : Char} {rest : List Char} (bare : Bare c rest) :
    Bare c (escapeChars rest) := by
  rintro rfl high low more shape
  -- Digits are not escaped, so those in the escaped rest are the first characters of the rest.
  cases high_is : digitValue? 16 high with
  | none => exact Or.inl rfl
  | some h =>
    obtain ⟨next, rfl, behind⟩ := escapeChars_eq_cons high_is shape
    cases low_is : digitValue? 16 low with
    | none => exact Or.inr rfl
    | some l =>
      obtain ⟨last, rfl, -⟩ := escapeChars_eq_cons low_is behind.symm
      -- Both digits are those of the text.
      rw [← high_is, ← low_is]
      exact bare rfl high low last rfl

/-- Behind an escaped character, decoding goes on. -/
theorem decode_escapeSegmentChar {c : Char} {rest : List Char} (bare : Bare c rest) :
    decode (escapeSegmentChar c ++ rest) = Utf8.encode (escapeSegmentChar c) ++ decode rest := by
  unfold escapeSegmentChar
  split_ifs
  · -- Neither character of a mark begins an encoded byte.
    simp [decode_cons_of_bare (bare_of_ne (show '~' ≠ '%' by decide) _),
      decode_cons_of_bare (bare_of_ne (show '0' ≠ '%' by decide) _), Utf8.encode]
  · simp [decode_cons_of_bare (bare_of_ne (show '~' ≠ '%' by decide) _),
      decode_cons_of_bare (bare_of_ne (show '1' ≠ '%' by decide) _), Utf8.encode]
  · exact decode_cons_of_bare bare

/-- A plain text stays plain when it is escaped. -/
theorem plain_escapeChars {text : List Char} (plain : Plain text) : Plain (escapeChars text) := by
  -- By induction on the text: an escaped character begins no encoded byte if it began none.
  induction text with
  | nil => exact plain
  | cons c rest ih =>
    obtain ⟨bare, below⟩ := plain_cons_iff.mp plain
    rw [escapeChars, List.flatMap_cons, escapeSegmentChar]
    split_ifs
    · -- The mark of a tilde has no percent sign in it.
      exact plain_cons_iff.mpr ⟨bare_of_ne (by decide) _,
        plain_cons_iff.mpr ⟨bare_of_ne (by decide) _, ih below⟩⟩
    · exact plain_cons_iff.mpr ⟨bare_of_ne (by decide) _,
        plain_cons_iff.mpr ⟨bare_of_ne (by decide) _, ih below⟩⟩
    · exact plain_cons_iff.mpr ⟨bare.escapeChars, ih below⟩

end Percent

/-! ### Reading escaped segments -/

/-- An escaped character in front of a text is read back. -/
theorem unescapeChars_escapeSegmentChar (c : Char) (rest : List Char) :
    unescapeChars (escapeSegmentChar c ++ rest) = c :: unescapeChars rest := by
  unfold escapeSegmentChar unescapeChars
  split_ifs with tilde slash
  · subst tilde
    -- The first pass leaves the tilde and the zero behind it.
    simp [replaceMark, replaceMark_cons, replaceMark_mark]
  · subst slash
    simp [replaceMark_mark, replaceMark_cons]
  · simp [replaceMark_cons tilde]

/-- Replacing marks behind one more character makes the text longer by one character at most. -/
theorem length_replaceMark_cons_le {digit : Char} (other : digit ≠ '~') (replacement c : Char)
    (rest : List Char) :
    (replaceMark digit replacement (c :: rest)).length ≤
      (replaceMark digit replacement rest).length + 1 := by
  -- Only a tilde can be the beginning of a mark.
  by_cases tilde : c = '~'
  · subst tilde
    cases rest with
    | nil => simp [replaceMark]
    | cons d rest =>
      rw [replaceMark]
      split_ifs with mark
      · -- The mark takes the place of two characters, and the digit alone would stay.
        rw [mark.2, replaceMark_cons other]
        simp
      · simp
  · rw [replaceMark_cons tilde]
    simp

/-- One more character makes a text that is read longer by one character at most. -/
theorem length_unescapeChars_cons_le (c : Char) (rest : List Char) :
    (unescapeChars (c :: rest)).length ≤ (unescapeChars rest).length + 1 := by
  -- The character completes the mark of a slash, or the first pass does not see it.
  by_cases marked : c = '~' ∧ rest.head? = some '1'
  · obtain ⟨rfl, first⟩ := marked
    obtain ⟨more, rfl⟩ : ∃ more, rest = '1' :: more := by
      cases rest with
      | nil => cases first
      | cons d more => exact ⟨more, by rw [Option.some.inj first]⟩
    -- Together both are a slash; the digit alone stays.
    simp [unescapeChars, replaceMark_mark, replaceMark_cons]
  · -- The first pass leaves the character.
    have kept : replaceMark '1' '/' (c :: rest) = c :: replaceMark '1' '/' rest := by
      cases rest with
      | nil => rfl
      | cons d more =>
        rw [replaceMark, if_neg]
        rintro ⟨rfl, rfl⟩
        exact marked ⟨rfl, rfl⟩
    rw [unescapeChars, kept]
    exact length_replaceMark_cons_le (by decide) _ _ _

/-- Characters in front of a text that is read are no more than they were. -/
theorem length_unescapeChars_append_le (front back : List Char) :
    (unescapeChars (front ++ back)).length ≤ front.length + (unescapeChars back).length := by
  -- By induction on the characters in front, each of which adds one at most.
  induction front with
  | nil => simp
  | cons c front ih =>
    have one := length_unescapeChars_cons_le c (front ++ back)
    rw [List.cons_append, List.length_cons]
    omega

/-- The characters that bytes are read as, from a state on and with a replacement for each mark. -/
def Utf8.shownFrom (state : Utf8State) (bytes : List UInt8) : List Char :=
  (decodeFrom state bytes).map fun c => c.getD '\uFFFD'

/-- A byte adds one character at most to what is read behind it. -/
theorem length_shownFrom_byte_le (state : Utf8State) (b : UInt8) (rest : List UInt8) :
    (unescapeChars (Utf8.shownFrom state (b :: rest))).length + (Utf8.step state b.toNat).2.pending ≤
      (unescapeChars (Utf8.shownFrom (Utf8.step state b.toNat).2 rest)).length + state.pending + 1 := by
  -- What the byte makes of the state and what it adds are paid for by one character.
  have added := Utf8.length_step_le state b.toNat
  rw [Utf8.shownFrom, Utf8.decodeFrom_cons, List.map_append]
  have front := length_unescapeChars_append_le
    ((Utf8.step state b.toNat).1.map fun c => c.getD '\uFFFD')
    (Utf8.shownFrom (Utf8.step state b.toNat).2 rest)
  rw [List.length_map] at front
  rw [Utf8.shownFrom] at front ⊢
  omega

/-- Characters that are encoded behind others are decoded, and break off a character before them. -/
theorem Utf8.decodeFrom_encode {state : Utf8State} (sound : state.Sound) {text : List Char}
    (some_char : text ≠ []) (rest : List UInt8) :
    decodeFrom state (encode text ++ rest) =
      List.replicate state.pending none ++ (text.map some ++ decodeFrom .idle rest) := by
  -- By induction on the text; only its first character can break another one off.
  induction text generalizing state with
  | nil => exact absurd rfl some_char
  | cons c text ih =>
    have first := decodeFrom_char_sound sound c (encode text ++ rest)
    rw [encode, List.flatMap_cons, List.append_assoc]
    refine first.trans ?_
    by_cases last : text = []
    · subst last
      rfl
    · -- Behind the first character the decoder stands between characters.
      have idle : Utf8State.idle.Sound := trivial
      rw [ih idle last]
      simp [Utf8State.pending]

/-- An escaped character is at least one. -/
theorem escapeSegmentChar_ne_nil (c : Char) : escapeSegmentChar c ≠ [] := by
  unfold escapeSegmentChar
  split_ifs <;> simp

/-- An escaped character adds itself to what is read behind it, and the mark of a character that
is broken off. -/
theorem length_shownFrom_char_le {state : Utf8State} (sound : state.Sound) (c : Char)
    (rest : List UInt8) :
    (unescapeChars (Utf8.shownFrom state (Utf8.encode (escapeSegmentChar c) ++ rest))).length ≤
      (unescapeChars (Utf8.shownFrom .idle rest)).length + state.pending + 1 := by
  -- A mark for the character that was broken off, the escaped character, and what follows.
  have shape : Utf8.shownFrom state (Utf8.encode (escapeSegmentChar c) ++ rest) =
      List.replicate state.pending '\uFFFD' ++
        (escapeSegmentChar c ++ Utf8.shownFrom .idle rest) := by
    rw [Utf8.shownFrom, Utf8.decodeFrom_encode sound (escapeSegmentChar_ne_nil c)]
    simp [Utf8.shownFrom]
  rw [shape]
  have front := length_unescapeChars_append_le (List.replicate state.pending '\uFFFD')
    (escapeSegmentChar c ++ Utf8.shownFrom .idle rest)
  rw [unescapeChars_escapeSegmentChar, List.length_replicate, List.length_cons] at front
  omega

/-- The length of what is read of an escaped text. -/
def lengthReadBack (state : Utf8State) (text : List Char) : Nat :=
  (unescapeChars (Utf8.shownFrom state (Percent.decode (escapeChars text)))).length

/-- Where no encoded byte begins, a character is read back as one. -/
theorem lengthReadBack_cons_le {c : Char} {rest : List Char} (bare : Percent.Bare c rest)
    {state : Utf8State} (sound : state.Sound) :
    lengthReadBack state (c :: rest) ≤ lengthReadBack .idle rest + state.pending + 1 := by
  unfold lengthReadBack
  rw [show escapeChars (c :: rest) = escapeSegmentChar c ++ escapeChars rest from rfl,
    Percent.decode_escapeSegmentChar bare.escapeChars]
  exact length_shownFrom_char_le sound c _

/-- A character that begins no encoded byte is read back as itself, so that a text is no longer than it
was, or shorter, if this is so behind the character. -/
theorem lengthReadBack_bare {c : Char} {rest : List Char} (bare : Percent.Bare c rest)
    (below : lengthReadBack .idle rest ≤ rest.length)
    (shorter : ¬ Percent.Plain rest → lengthReadBack .idle rest < rest.length) {state : Utf8State}
    (sound : state.Sound) :
    lengthReadBack state (c :: rest) ≤ (c :: rest).length + state.pending ∧
      (¬ Percent.Plain (c :: rest) →
        lengthReadBack state (c :: rest) < (c :: rest).length + state.pending) := by
  have one := lengthReadBack_cons_le bare sound
  rw [Percent.plain_cons_iff, List.length_cons]
  refine ⟨by omega, fun notPlain => ?_⟩
  -- The character itself is plain, so the rest is not.
  have less := shorter fun plain => notPlain ⟨bare, plain⟩
  omega

/-- What is read of an escaped text is no longer than the text and the mark of a character that is
broken off, and shorter as soon as the text is not plain. -/
theorem lengthReadBack_le (text : List Char) : ∀ state : Utf8State, state.Sound →
    lengthReadBack state text ≤ text.length + state.pending ∧
      (¬ Percent.Plain text → lengthReadBack state text < text.length + state.pending) := by
  -- By induction along the decoding, from every state in which the text may be begun.
  induction text using Percent.decode.induct with
  | case1 =>
    intro state _
    refine ⟨?_, fun notPlain => absurd (Percent.plain_of_not_mem (by simp)) notPlain⟩
    -- Only the mark of a character that was begun is left.
    cases state <;> simp [lengthReadBack, escapeChars, Percent.decode, Utf8.shownFrom,
      Utf8.decodeFrom, unescapeChars, replaceMark, Utf8State.pending]
  | case2 high low rest h l high_is low_is ih =>
    intro state sound
    -- Three characters are one byte, which is one character at most.
    have byte : Percent.decode (escapeChars ('%' :: high :: low :: rest)) =
        UInt8.ofNat (h * 16 + l) :: Percent.decode (escapeChars rest) := by
      rw [show escapeChars ('%' :: high :: low :: rest) =
          escapeSegmentChar '%' ++ (escapeSegmentChar high ++ (escapeSegmentChar low ++
            escapeChars rest)) from rfl,
        escapeSegmentChar_digit high_is, escapeSegmentChar_digit low_is]
      simp [escapeSegmentChar, Percent.decode, high_is, low_is]
    have added := length_shownFrom_byte_le state (UInt8.ofNat (h * 16 + l))
      (Percent.decode (escapeChars rest))
    have below := (ih _ (Utf8.step_sound sound (UInt8.ofNat (h * 16 + l)).toNat)).1
    unfold lengthReadBack at below ⊢
    rw [byte]
    simp only [List.length_cons]
    omega
  -- A percent sign without two digits behind it stands for itself.
  | case3 high low rest missing ih =>
    intro state sound
    have bare : Percent.Bare '%' (high :: low :: rest) := by
      rintro - a b more shape
      cases shape
      cases high_is : digitValue? 16 high with
      | none => exact Or.inl rfl
      | some h =>
        cases low_is : digitValue? 16 low with
        | none => exact Or.inr rfl
        | some l => exact (missing h l high_is low_is).elim
    obtain ⟨below, shorter⟩ := ih .idle trivial
    exact lengthReadBack_bare bare below shorter sound
  -- So does any other character.
  | case4 c rest other ih =>
    intro state sound
    have bare : Percent.Bare c rest := by
      rintro rfl high low more rfl
      exact absurd rfl (other high low more rfl)
    obtain ⟨below, shorter⟩ := ih .idle trivial
    exact lengthReadBack_bare bare below shorter sound

namespace Pointer

/-- A segment that is written in a fragment is read back exactly if it has no encoded byte. -/
theorem decodeSegment_escape_iff (segment : String) :
    decodeSegment (escape segment) = segment ↔ Percent.Plain segment.toList := by
  constructor
  · intro same
    by_contra notPlain
    have shorter := (lengthReadBack_le segment.toList .idle trivial).2 notPlain
    -- What is shorter is not the segment.
    have chars := congrArg (fun text => text.toList.length) same
    simp only [decodeSegment, escape, String.toList_ofList, Utf8.decode] at chars
    simp only [lengthReadBack, Utf8.shownFrom, Utf8State.pending] at shorter
    omega
  · intro plain
    exact decodeSegment_escapeChars (Percent.plain_escapeChars plain)

/-- Segment by segment, a fragment is read back. -/
theorem parse_fragment (p : Pointer) :
    parse p.fragment = p.map fun segment => decodeSegment (escape segment) := by
  simp only [parse, toList_fragment]
  exact parseWith_toList_text decodeSegment p

/-- Different pointers are written as different fragments. -/
theorem fragment_inj {p q : Pointer} (same : p.fragment = q.fragment) : p = q := by
  have chars := congrArg String.toList same
  rw [toList_fragment, toList_fragment, List.cons.injEq] at chars
  rw [← parse_text p, ← parse_text q, String.toList_injective chars.2]

end Pointer

/-- A reference that spells a pointer as a fragment leads where the fragment is read to lead. -/
theorem Reference.pointer_parse_fragment (p : Pointer) :
    (Reference.parse p.fragment).pointer = Pointer.parse p.fragment := by
  -- Nothing stands before the number sign.
  have shape : p.fragment = String.ofList ('#' :: p.text.toList) := by
    rw [← Pointer.toList_fragment, String.ofList_toList]
  -- The document part is empty, and the fragment is read as the pointer would be.
  simp only [parse, Pointer.toList_fragment, List.takeWhile_cons]
  simp [shape]

/-- Different pointers are written as different fragments, and a fragment leads back to its
pointer, as a pointer or as a reference, exactly if no segment has a percent sign with two
hexadecimal digits behind it: fragments are percent-decoded when they are read. -/
theorem fragments_lead_back (p q : Pointer) :
    (p.fragment = q.fragment ↔ p = q) ∧
      (Pointer.parse p.fragment = p ↔ ∀ segment ∈ p, Percent.Plain segment.toList) ∧
      (Reference.parse p.fragment).pointer = Pointer.parse p.fragment := by
  refine ⟨⟨Pointer.fragment_inj, congrArg _⟩, ?_, Reference.pointer_parse_fragment p⟩
  rw [Pointer.parse_fragment]
  simp only [← Pointer.decodeSegment_escape_iff]
  -- A list is mapped to itself exactly if each of its items is.
  constructor
  · intro same segment member
    exact List.map_inj_left.mp (same.trans (List.map_id p).symm) segment member
  · intro each
    exact (List.map_congr_left each).trans (List.map_id p)

/-- A segment that looks like an encoded byte is decoded, so that its fragment leads where that of
another pointer does. -/
theorem encoded_byte_is_decoded :
    Pointer.parse (Pointer.fragment ["%41"]) ≠ ["%41"] ∧
      (Reference.parse (Pointer.fragment ["%41"])).pointer ≠ ["%41"] ∧
      Pointer.parse (Pointer.fragment ["%41"]) = Pointer.parse (Pointer.fragment ["A"]) := by
  decide

end SpecTrace
