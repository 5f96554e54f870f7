import SpecTrace.Proofs.Json.Values
import SpecTrace.Proofs.Yaml.CoreSchema
import SpecTrace.Yaml.Block

/-! Words and numbers of JSON are plain scalars of YAML with the same value. -/

namespace SpecTrace

open Grammar

/-- What is read as a decimal integer has neither a point nor an exponent. -/
theorem readDecimal?_of_not_bare {text : List Char} {parts : Parts} (number : Number text parts)
    (bare : parts.isBare = false) : readDecimal? text = none := by
  refine Option.eq_none_iff_forall_ne_some.mpr fun value read => ?_
  obtain ⟨sign, negative, digits, same, signed, spelled⟩ := CoreSchema.digits_of_readDecimal? read
  cases number with
  | @mk minus whole point exponent fraction negative power _ _ behind scale =>
    -- The point or the mark is neither a sign nor a digit.
    have other : ∃ c ∈ point ++ exponent, c.isDigit = false ∧ isSign c = false := by
      cases behind with
      | present _ => exact ⟨'.', by simp, rfl, rfl⟩
      | absent =>
        cases scale with
        | absent => simp [Parts.isBare] at bare
        | present marks _ _ =>
          rcases marks with rfl | rfl <;> exact ⟨_, List.mem_cons_self, rfl, rfl⟩
    obtain ⟨c, member, notDigit, notSign⟩ := other
    have inside : c ∈ sign ++ digits := by
      rw [← same]
      exact List.mem_append_right _ (List.mem_append_right _ member)
    -- The character would be in the sign or among the digits.
    rcases List.mem_append.mp inside with inSign | inDigits
    · cases signed with
      | absent => cases inSign
      | plus => simp_all [isSign]
      | minus => simp_all [isSign]
    · rw [spelled.2 c inDigits] at notDigit
      cases notDigit

/-- A number is resolved to its value. -/
theorem resolvePlain_number {text : List Char} {parts : Parts} {value : JsonNumber}
    (number : Number text parts) (inRange : parts.value? = some value) :
    resolvePlain text = .number value := by
  have form := number.decimalForm
  rw [CoreSchema.resolvePlain_of_digit (CoreSchema.DecimalForm.digit form),
    CoreSchema.DecimalForm.number? form]
  -- Integers are read at once, other numbers when everything else failed.
  cases bare : parts.isBare with
  | true =>
    cases number with
    | mk minus digits behind scale =>
      obtain ⟨rfl, rfl, rfl, rfl⟩ := eq_nil_of_bare behind scale bare
      have decimal := CoreSchema.readDecimal?_digits minus.sign digits.isDigits
      rw [inRange] at decimal
      rw [List.append_nil, List.append_nil, decimal]
      rfl
  | false =>
    -- With a point or an exponent the value is a float.
    have notInteger : ¬parts.IsInteger := by
      rintro ⟨noFraction, noPower, _⟩
      simp [Parts.isBare, noFraction, noPower] at bare
    rw [Parts.value?, if_neg notInteger] at inRange
    obtain ⟨x, finite, rfl⟩ := Option.map_eq_some_iff.mp inRange
    rw [readDecimal?_of_not_bare number bare, finite]
    rfl

/-! ### Plain scalars -/

namespace Yaml

/-- A character that neither ends a plain scalar nor is a blank. -/
def isPlain (c : Char) : Bool :=
  !(isBreak c || isInlineSpace c || isFlowIndicator c || c = ':' || c = '#')

/-- A word or a number of JSON, as a plain scalar. -/
structure Plain (text : List Char) (value : Scalar) : Prop where
  chars : ∀ c ∈ text, isPlain c = true
  resolves : resolvePlain text = value
  /-- It begins with a letter or a digit, or with a minus in front of a digit. -/
  begins : ∃ first rest, text = first :: rest ∧
    (first ∈ ['t', 'f', 'n'] ∨ first.isDigit = true ∨
      first = '-' ∧ ∃ second, rest.head? = some second ∧ second.isDigit = true)

/-- A digit is plain. -/
theorem isPlain_of_isDigit {c : Char} (digit : c.isDigit = true) : isPlain c = true := by
  -- Each character that is not plain is no digit.
  have other : ∀ d : Char, d.isDigit = false → c ≠ d := by
    rintro d notDigit rfl
    rw [digit] at notDigit
    cases notDigit
  have breaks : isBreak c = false := by
    simp [isBreak, other '\n' rfl, other '\r' rfl]
  have blank : isInlineSpace c = false := by
    simp [isInlineSpace, other ' ' rfl, other '\t' rfl]
  have indicator : isFlowIndicator c = false := by
    simp [isFlowIndicator, other ',' rfl, other '[' rfl, other ']' rfl, other '\x7b' rfl,
      other '\x7d' rfl]
  simp [isPlain, breaks, blank, indicator, other ':' rfl, other '#' rfl]

/-- A number is a plain scalar. -/
theorem plain_number {text : List Char} {parts : Parts} {value : JsonNumber}
    (number : Number text parts) (inRange : parts.value? = some value) :
    Plain text (.number value) := by
  refine ⟨fun c member => ?_, resolvePlain_number number inRange, ?_⟩
  · -- A number is made of digits, signs, points and the mark of its exponent.
    rcases number.decimalForm.chars c member with digit | mark
    · exact isPlain_of_isDigit digit
    · simp only [List.mem_cons, List.not_mem_nil, or_false] at mark
      rcases mark with rfl | rfl | rfl | rfl | rfl <;> rfl
  -- The first digit comes first, or behind the minus.
  · cases number with
    | mk sign digits behind scale =>
      obtain ⟨first, rest, rfl, digit⟩ := digits.first
      cases sign with
      | absent => exact ⟨first, _, rfl, Or.inr (Or.inl digit)⟩
      | present => exact ⟨'-', _, rfl, Or.inr (Or.inr ⟨rfl, first, rfl, digit⟩)⟩

/-- A word is a plain scalar. -/
theorem plain_word {text : List Char} {value : Scalar} (known : (text, value) ∈ words) :
    Plain text value := by
  simp only [words, List.mem_cons, Prod.mk.injEq, List.not_mem_nil, or_false] at known
  -- The three words are read letter by letter.
  rcases known with ⟨rfl, rfl⟩ | ⟨rfl, rfl⟩ | ⟨rfl, rfl⟩
  · exact ⟨List.all_eq_true.mp (by decide), rfl, _, _, rfl, Or.inl (by decide)⟩
  · exact ⟨List.all_eq_true.mp (by decide), rfl, _, _, rfl, Or.inl (by decide)⟩
  · exact ⟨List.all_eq_true.mp (by decide), rfl, _, _, rfl, Or.inl (by decide)⟩

/-- A value without children is a plain scalar or a string in quotes. -/
theorem plain_or_quoted {unit? : List Char → Option Nat} {text : List Char} {value : Scalar}
    (leaf : Leaf unit? text value) :
    Plain text value ∨ ∃ string, value = .string string ∧ Quoted unit? text string := by
  cases leaf with
  | word known => exact Or.inl (plain_word known)
  | number number inRange => exact Or.inl (plain_number number inRange)
  | string quoted => exact Or.inr ⟨_, rfl, quoted⟩

end Yaml

end SpecTrace
