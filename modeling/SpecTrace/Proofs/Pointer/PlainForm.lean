import SpecTrace.Proofs.Pointer.Fragment

/-! Pointers in plain form are exactly the lists of segments: each list has one text, and each text
that the grammar of pointers allows is the text of the list that it spells. -/

namespace SpecTrace

namespace Pointer

/-! ### The grammar -/

/-- Behind every tilde comes a zero or a one. -/
def Marked (text : List Char) : Prop :=
  ∀ front back, text = front ++ '~' :: back → back.head? = some '0' ∨ back.head? = some '1'

/-- A text is a pointer in plain form: it is empty or begins with a slash, and its tildes are
marks. -/
structure IsPlainForm (text : List Char) : Prop where
  begins : text = [] ∨ text.head? = some '/'
  marked : Marked text

/-- What stands between slashes, and the segment that it denotes. -/
inductive Token : List Char → List Char → Prop where
  | nil : Token [] []
  | char {c : Char} {written meant : List Char} (mark : c ≠ '~') (slash : c ≠ '/')
      (rest : Token written meant) : Token (c :: written) (c :: meant)
  | tilde {written meant : List Char} (rest : Token written meant) :
      Token ('~' :: '0' :: written) ('~' :: meant)
  | slash {written meant : List Char} (rest : Token written meant) :
      Token ('~' :: '1' :: written) ('/' :: meant)

/-- A text spells a pointer: each segment is denoted by what stands behind a slash. -/
inductive Spells : List Char → Pointer → Prop where
  | root : Spells [] []
  | segment {written behind : List Char} {first : String} {rest : Pointer}
      (token : Token written first.toList) (others : Spells behind rest) :
      Spells ('/' :: (written ++ behind)) (first :: rest)

/-! ### Texts that are written -/

/-- A token is the escaped form of the segment that it denotes. -/
theorem token_iff {written meant : List Char} : Token written meant ↔ written = escapeChars meant := by
  constructor
  · intro token
    -- By induction on the token: each rule writes what escaping writes.
    induction token with
    | nil => rfl
    | char mark slash rest ih => simp [escapeChars, escapeSegmentChar, mark, slash, ih]
    | tilde rest ih => simp [escapeChars, escapeSegmentChar, ih]
    | slash rest ih => simp [escapeChars, escapeSegmentChar, ih]
  · rintro rfl
    -- By induction on the segment: each character is escaped by one of the rules.
    induction meant with
    | nil => exact .nil
    | cons c rest ih =>
      rw [escapeChars, List.flatMap_cons, ← escapeChars, escapeSegmentChar]
      split
      · rename_i tilde
        subst tilde
        exact .tilde ih
      · rename_i mark
        split
        · rename_i slash
          subst slash
          exact .slash ih
        · rename_i slash
          exact .char mark slash ih

/-- The text of a pointer spells it, and no other text does. -/
theorem spells_iff {written : List Char} {p : Pointer} : Spells written p ↔ written = p.text.toList := by
  constructor
  · intro spells
    -- Segment by segment, each token is the escaped form of its segment.
    induction spells with
    | root => rfl
    | segment token others ih => rw [toList_text_cons, token_iff.mp token, ih]
  · rintro rfl
    induction p with
    | nil => exact .root
    | cons first rest ih =>
      rw [toList_text_cons]
      exact .segment (token_iff.mpr rfl) ih

/-! ### Texts that the grammar allows -/

/-- The tildes of a text are marks if the first character is none without its digit and those of the
rest are. -/
theorem marked_cons {c : Char} {rest : List Char} :
    Marked (c :: rest) ↔
      (c = '~' → rest.head? = some '0' ∨ rest.head? = some '1') ∧ Marked rest := by
  constructor
  · intro marked
    refine ⟨fun tilde => marked [] rest (by rw [tilde]; rfl), fun front back split => ?_⟩
    exact marked (c :: front) back (by rw [split]; rfl)
  · rintro ⟨here, later⟩ front back split
    -- A tilde is the first character or stands in the rest.
    cases front with
    | nil =>
      obtain ⟨tilde, rfl⟩ := List.cons.inj split
      exact here tilde
    | cons first front =>
      obtain ⟨_, behind⟩ := List.cons.inj split
      exact later front back behind

/-- The tildes of a token are marks. -/
theorem Token.marked {written meant rest : List Char} (token : Token written meant)
    (behind : Marked rest) : Marked (written ++ rest) := by
  -- By induction on the token: its tildes come with their digits.
  induction token with
  | nil => exact behind
  | char mark slash rest ih => exact marked_cons.mpr ⟨fun tilde => absurd tilde mark, ih⟩
  | tilde rest ih => simpa [marked_cons] using ih
  | slash rest ih => simpa [marked_cons] using ih

/-- Only pointers in plain form spell pointers. -/
theorem Spells.isPlainForm {written : List Char} {p : Pointer} (spells : Spells written p) :
    IsPlainForm written := by
  induction spells with
  | root => exact ⟨.inl rfl, by simp [Marked]⟩
  | segment token others ih =>
    exact ⟨.inr rfl, marked_cons.mpr ⟨by simp, token.marked ih.marked⟩⟩

/-- A text whose tildes are marks is a token with a pointer behind it. -/
theorem exists_token : ∀ text : List Char, Marked text →
    ∃ written meant behind p, text = written ++ behind ∧ Token written meant ∧ Spells behind p
  | [], _ => ⟨[], [], [], [], rfl, .nil, .root⟩
  | c :: rest, marked => by
    obtain ⟨mark, later⟩ := marked_cons.mp marked
    -- The rest is a token with a pointer behind it, which the first character adds to.
    obtain ⟨written, meant, behind, p, rfl, token, spells⟩ := exists_token rest later
    by_cases tilde : c = '~'
    · -- The digit behind the tilde is the first character of the token that the rest begins with.
      subst tilde
      have digit := mark rfl
      cases token with
      | nil =>
        -- A pointer begins with a slash, if with anything.
        cases spells <;> simp at digit
      | @char d written meant other slash rest =>
        simp only [List.cons_append, List.head?_cons, Option.some.injEq] at digit
        rcases digit with rfl | rfl
        · exact ⟨_, _, behind, p, rfl, .tilde rest, spells⟩
        · exact ⟨_, _, behind, p, rfl, .slash rest, spells⟩
      | tilde rest => simp at digit
      | slash rest => simp at digit
    · by_cases slash : c = '/'
      · -- The rest is what stands behind the slash.
        subst slash
        refine ⟨[], [], _, String.ofList meant :: p, rfl, .nil, .segment ?_ spells⟩
        rwa [String.toList_ofList]
      · exact ⟨_, _, behind, p, rfl, .char tilde slash token, spells⟩

/-- Every pointer in plain form spells one. -/
theorem IsPlainForm.spells {written : List Char} (plain : IsPlainForm written) :
    ∃ p, Spells written p := by
  -- The token in front has to be empty.
  obtain ⟨token, meant, behind, p, rfl, denotes, spells⟩ := exists_token written plain.marked
  cases denotes with
  | nil => exact ⟨p, spells⟩
  | char mark slash rest =>
    -- The text begins with a slash, which is in no token.
    rcases plain.begins with none | first
    · cases none
    · exact absurd (Option.some.inj first) slash
  -- Nor does a mark begin with a slash.
  | tilde rest => rcases plain.begins with none | first <;> simp_all
  | slash rest => rcases plain.begins with none | first <;> simp_all

/-- Lists of segments and pointers in plain form correspond to each other. The text of a list is
read back as that list, the pointers in plain form are the texts that are the text of what they are
read as, and that is the list which they spell by the grammar. -/
theorem plain_forms_are_segment_lists :
    (∀ p : Pointer, parse p.text = p) ∧
      (∀ s : String, IsPlainForm s.toList ↔ (parse s).text = s) ∧
      ∀ (s : String) (p : Pointer), Spells s.toList p ↔ IsPlainForm s.toList ∧ parse s = p := by
  -- A text that spells a pointer is the one the pointer is written as.
  have reads : ∀ (s : String) (p : Pointer), Spells s.toList p → s = p.text :=
    fun s p spells => String.toList_injective (spells_iff.mp spells)
  refine ⟨parse_text, fun s => ⟨fun plain => ?_, fun same => ?_⟩, fun s p => ⟨fun spells => ?_, ?_⟩⟩
  · obtain ⟨p, spells⟩ := plain.spells
    rw [reads s p spells, parse_text]
  · exact (spells_iff.mpr (congrArg String.toList same.symm)).isPlainForm
  · refine ⟨spells.isPlainForm, ?_⟩
    rw [reads s p spells, parse_text]
  · rintro ⟨plain, rfl⟩
    obtain ⟨p, spells⟩ := plain.spells
    rwa [reads s p spells, parse_text, ← reads s p spells]

/-- Marks are undone once: a tilde that a mark denotes makes no mark with the digit behind it. -/
example : parse "/~01//~1" = ["~1", "", "/"] := by decide

end Pointer

end SpecTrace
