import SpecTrace.Proofs.Json.Grammar

/-! Decimal forms: digits with an optional sign, an optional point among them or beside them, and an
optional exponent. Each is read as the binary64 value nearest to what it spells. -/

namespace SpecTrace

/-- A text does not go on with a character of a kind. -/
def Stops (p : Char → Bool) (text : List Char) : Prop :=
  ∀ c, text.head? = some c → p c = false

/-- A run in front of a text that does not go on with it is taken as a whole. -/
theorem Stops.takeWhile {p : Char → Bool} {run text : List Char} (stops : Stops p text)
    (all : ∀ c ∈ run, p c = true) : (run ++ text).takeWhile p = run := by
  rw [List.takeWhile_append_of_pos all]
  -- The run is taken whole, and the character behind it is not taken.
  cases text with
  | nil => simp
  | cons first rest => simp [stops first rfl]

/-- Behind a run that was dropped the text goes on. -/
theorem Stops.dropWhile {p : Char → Bool} {run text : List Char} (stops : Stops p text)
    (all : ∀ c ∈ run, p c = true) : (run ++ text).dropWhile p = text := by
  rw [List.dropWhile_append_of_pos all]
  cases text with
  | nil => rfl
  | cons first rest => simp [stops first rfl]

/-- Two texts that do not begin with a character of a kind do not together. -/
theorem Stops.append {p : Char → Bool} {front back : List Char} (first : Stops p front)
    (second : Stops p back) : Stops p (front ++ back) := by
  cases front with
  | nil => exact second
  | cons c rest => exact first

/-- A digit is a code from that of zero to that of nine. -/
theorem isDigit_bounds {c : Char} (digit : c.isDigit = true) : 48 ≤ c.toNat ∧ c.toNat ≤ 57 := by
  simpa [Char.isDigit, UInt32.le_iff_toNat_le] using digit

/-- A digit stands for its distance from zero. -/
theorem digitValue?_of_isDigit {c : Char} (digit : c.isDigit = true) :
    digitValue? 10 c = some (c.toNat - '0'.toNat) := by
  obtain ⟨low, high⟩ := isDigit_bounds digit
  -- The first range of the reader is that of the decimal digits.
  have between : '0' ≤ c ∧ c ≤ '9' := ⟨low, high⟩
  have zero : '0'.toNat = 48 := rfl
  simp only [digitValue?, if_pos between]
  rw [if_pos (by omega)]

/-- Digits are read onto a value. -/
theorem readDigits?_of_isDigit {digits : List Char} (all : ∀ c ∈ digits, c.isDigit = true)
    (value : Nat) :
    readDigits? 10 value digits =
      some (digits.foldl (fun value c => value * 10 + (c.toNat - '0'.toNat)) value) := by
  -- The value is general, since each digit is read onto the value of those before.
  induction digits generalizing value with
  | nil => rfl
  | cons c rest ih =>
    have one := digitValue?_of_isDigit (all c List.mem_cons_self)
    have others := ih fun d member => all d (List.mem_cons_of_mem _ member)
    simp only [readDigits?, one, List.foldl_cons]
    exact others _

namespace Grammar

variable {text exponent mantissa whole fraction : List Char} {parts : Parts} {negative : Bool}
  {power : Option Int}

/-- Digits are read as their value. -/
theorem IsDigits.read (digits : IsDigits text) :
    readDigits? 10 0 text = some (valueOfDigits text) :=
  readDigits?_of_isDigit digits.2 0

/-- Digits behind digits are digits. -/
theorem IsDigits.append {front back : List Char} (digits : IsDigits front)
    (more : ∀ c ∈ back, c.isDigit = true) : IsDigits (front ++ back) := by
  refine ⟨by simp [digits.1], ?_⟩
  intro c member
  rcases List.mem_append.mp member with inFront | inBack
  · exact digits.2 c inFront
  · exact more c inBack

/-- Digits begin with a digit. -/
theorem IsDigits.first (digits : IsDigits text) :
    ∃ first rest, text = first :: rest ∧ first.isDigit = true := by
  obtain ⟨first, rest, rfl⟩ := List.exists_cons_of_ne_nil digits.1
  exact ⟨first, rest, rfl, digits.2 first List.mem_cons_self⟩

/-! ### Signs and exponents -/

/-- A minus or a plus. -/
def isSign (c : Char) : Bool :=
  c = '-' || c = '+'

/-- A digit is no sign. -/
theorem isSign_of_isDigit {c : Char} (digit : c.isDigit = true) : isSign c = false := by
  simp only [isSign, Bool.or_eq_false_iff, decide_eq_false_iff_not]
  constructor <;>
  · rintro rfl
    cases digit

/-- A sign is split off a text that does not begin with one. -/
theorem Sign.split {sign rest : List Char} (signed : Sign sign negative)
    (unsigned : Stops isSign rest) : Binary64.splitSign (sign ++ rest) = (negative, rest) := by
  cases signed with
  | absent =>
    -- Without a sign, the first character must not be mistaken for one.
    rw [List.nil_append]
    unfold Binary64.splitSign
    split
    · exact absurd (unsigned '-' rfl) (by decide)
    · exact absurd (unsigned '+' rfl) (by decide)
    · rfl
  | plus => rfl
  | minus => rfl

/-- Digits do not begin with a sign. -/
theorem IsDigits.unsigned (digits : IsDigits text) : Stops isSign text := by
  intro c first
  obtain ⟨rest, rfl⟩ := List.head?_eq_some_iff.mp first
  exact isSign_of_isDigit (digits.2 c List.mem_cons_self)

/-- A sign in front of digits is split off them. -/
theorem Sign.splitSign {sign digits : List Char} (signed : Sign sign negative)
    (spelled : IsDigits digits) : Binary64.splitSign (sign ++ digits) = (negative, digits) :=
  signed.split spelled.unsigned

/-- An exponent does not begin with a digit. -/
theorem Exponent.stops (scale : Exponent exponent power) : Stops Char.isDigit exponent := by
  intro c first
  cases scale with
  | absent => cases first
  -- An exponent that is written begins with one of its two marks.
  | present marks _ _ =>
    cases first
    rcases marks with rfl | rfl <;> rfl

/-- An exponent does not begin with a point. -/
theorem Exponent.no_point (scale : Exponent exponent power) : exponent.head? ≠ some '.' := by
  cases scale with
  | absent => simp
  | present marks _ _ => rcases marks with rfl | rfl <;> simp

/-- An exponent is read; without one it is zero. -/
theorem Exponent.read (scale : Exponent exponent power) :
    Binary64.readExponent? exponent = some (power.getD 0) := by
  cases scale with
  | absent => rfl
  | @present mark sign digits negative marks signed spelled =>
    simp only [Binary64.readExponent?, if_pos marks, signed.splitSign spelled]
    -- There is at least one digit.
    cases digits with
    | nil => exact absurd rfl spelled.1
    | cons first rest =>
      simp only [spelled.read]
      rfl

/-! ### Forms -/

/-- Digits, of which some may stand behind a point or all of them, with the digits on both sides. -/
inductive Mantissa : List Char → List Char → List Char → Prop
  | whole {digits : List Char} (spelled : IsDigits digits) : Mantissa digits digits []
  | point {whole fraction : List Char} (spelled : IsDigits whole)
    (behind : ∀ c ∈ fraction, c.isDigit = true) : Mantissa (whole ++ '.' :: fraction) whole fraction
  | fraction {digits : List Char} (spelled : IsDigits digits) : Mantissa ('.' :: digits) [] digits

/-- A decimal form and its parts: a sign, digits with or without a point, and an exponent, where the
sign and the exponent may be left out. -/
inductive DecimalForm : List Char → Parts → Prop
  | mk {sign mantissa exponent whole fraction : List Char} {negative : Bool} {power : Option Int}
    (signed : Sign sign negative) (digits : Mantissa mantissa whole fraction)
    (scale : Exponent exponent power) :
    DecimalForm (sign ++ (mantissa ++ exponent)) ⟨negative, whole, fraction, power⟩

/-- A mantissa begins with a digit or a point. -/
theorem Mantissa.first (digits : Mantissa mantissa whole fraction) :
    ∃ first rest, mantissa = first :: rest ∧ (first.isDigit = true ∨ first = '.') := by
  -- A point comes first only where there are no digits in front of it.
  cases digits with
  | whole spelled =>
    obtain ⟨first, rest, rfl, digit⟩ := spelled.first
    exact ⟨first, rest, rfl, .inl digit⟩
  | point spelled _ =>
    obtain ⟨first, rest, rfl, digit⟩ := spelled.first
    exact ⟨first, _, rfl, .inl digit⟩
  | fraction _ => exact ⟨'.', _, rfl, .inr rfl⟩

/-- A mantissa does not begin with a sign, whatever stands behind it. -/
theorem Mantissa.unsigned (digits : Mantissa mantissa whole fraction) (rest : List Char) :
    Stops isSign (mantissa ++ rest) := by
  -- The first character is a digit or the point.
  obtain ⟨first, others, rfl, begins⟩ := digits.first
  rintro c same
  cases same
  rcases begins with digit | rfl
  · exact isSign_of_isDigit digit
  · rfl

/-- A mantissa is no word. -/
theorem Mantissa.no_word (digits : Mantissa mantissa whole fraction) (rest word : List Char)
    (letters : (word.head?.all fun c => !(c.isDigit || c = '.')) = true) :
    (mantissa ++ rest).map Char.toLower ≠ word := by
  obtain ⟨first, others, rfl, begins⟩ := digits.first
  intro same
  -- Neither a digit nor a point has another case.
  have lower : first.toLower = first := by
    rcases begins with digit | rfl
    · obtain ⟨low, high⟩ := isDigit_bounds digit
      refine dif_neg ?_
      rintro ⟨capital, _⟩
      have : 65 ≤ first.toNat := capital
      omega
    · rfl
  rw [← same] at letters
  rcases begins with digit | rfl
  · simp [lower, digit] at letters
  · simp at letters

/-- A decimal form is made of digits, signs, a point and the mark of an exponent. -/
theorem DecimalForm.chars (form : DecimalForm text parts) :
    ∀ c ∈ text, c.isDigit = true ∨ c ∈ ['-', '+', '.', 'e', 'E'] := by
  -- Signs stand in front of the digits and in the exponent.
  have sign : ∀ {sign : List Char} {negative : Bool}, Sign sign negative → ∀ c ∈ sign,
      c ∈ ['-', '+', '.', 'e', 'E'] := by
    rintro sign negative signed c member
    cases signed <;> simp_all
  intro c member
  cases form with
  | mk signed digits scale =>
    -- The character stands in one of the three parts.
    simp only [List.mem_append] at member
    rcases member with inSign | inMantissa | inExponent
    · exact .inr (sign signed c inSign)
    · cases digits with
      | whole spelled => exact .inl (spelled.2 c inMantissa)
      | point spelled behind =>
        rcases List.mem_append.mp inMantissa with before | after
        · exact .inl (spelled.2 c before)
        · rcases List.mem_cons.mp after with rfl | fraction
          · exact .inr (by simp)
          · exact .inl (behind c fraction)
      | fraction spelled =>
        rcases List.mem_cons.mp inMantissa with rfl | digits
        · exact .inr (by simp)
        · exact .inl (spelled.2 c digits)
    · cases scale with
      | absent => cases inExponent
      | present marks signed spelled =>
        simp only [List.mem_cons, List.mem_append] at inExponent
        rcases inExponent with rfl | inSign | inDigits
        · rcases marks with rfl | rfl <;> exact .inr (by simp)
        · exact .inr (sign signed c inSign)
        · exact .inl (spelled.2 c inDigits)

/-- Digits around a point are read as the nearest value, if there are any. -/
theorem readMagnitude?_point (before : ∀ c ∈ whole, c.isDigit = true)
    (behind : ∀ c ∈ fraction, c.isDigit = true) (filled : (whole ++ fraction).isEmpty = false)
    (scale : Exponent exponent power) (negative : Bool) :
    Binary64.readMagnitude? negative (whole ++ '.' :: (fraction ++ exponent)) =
      some (Parts.binary ⟨negative, whole, fraction, power⟩) := by
  -- The digits in front of the point stop at the point, those behind it at the exponent.
  have stops : Stops Char.isDigit ('.' :: (fraction ++ exponent)) := by
    rintro c same
    cases same
    rfl
  have front := stops.takeWhile before
  have middle : (fraction ++ exponent).takeWhile Char.isDigit = fraction :=
    scale.stops.takeWhile behind
  -- The digits on both sides of the point are read as one number.
  have all := readDigits?_of_isDigit (List.forall_mem_append.mpr ⟨before, behind⟩) 0
  have empty : (whole.isEmpty && fraction.isEmpty) = false := by
    cases whole with
    | nil => exact filled
    | cons _ _ => rfl
  unfold Binary64.readMagnitude?
  simp [front, middle, empty, scale.read, all, Parts.binary, valueOfDigits]

/-- A mantissa with an exponent is read as the nearest value. -/
theorem Mantissa.read (digits : Mantissa mantissa whole fraction)
    (scale : Exponent exponent power) (negative : Bool) :
    Binary64.readMagnitude? negative (mantissa ++ exponent) =
      some (Parts.binary ⟨negative, whole, fraction, power⟩) := by
  cases digits with
  -- Digits without a point go a way of their own in the reader.
  | whole spelled =>
    have front := scale.stops.takeWhile spelled.2
    have filled := spelled.1
    unfold Binary64.readMagnitude?
    simp [front, filled, scale.no_point, scale.read, spelled.read, Parts.binary]
  | point spelled behind =>
    have filled : (whole ++ fraction).isEmpty = false := by
      simp [spelled.1]
    have read := readMagnitude?_point spelled.2 behind filled scale negative
    simpa using read
  | fraction spelled =>
    have filled : ([] ++ fraction).isEmpty = false := by
      simp [spelled.1]
    exact readMagnitude?_point (by simp) spelled.2 filled scale negative

/-- A decimal form is read as its nearest binary64 value. -/
theorem DecimalForm.read (form : DecimalForm text parts) :
    Binary64.read? text = some parts.binary := by
  cases form with
  -- The sign is split off first, then the words are tried, then the digits are read.
  | @mk sign mantissa exponent whole fraction negative power signed digits scale =>
    have word := digits.no_word exponent
    unfold Binary64.read?
    rw [signed.split (digits.unsigned exponent)]
    -- The words for infinity and for no number begin with letters.
    have notInfinite : ¬((mantissa ++ exponent).map Char.toLower = "inf".toList ∨
        (mantissa ++ exponent).map Char.toLower = "infinity".toList) := by
      rintro (same | same)
      · exact word _ (by decide) same
      · exact word _ (by decide) same
    have notNothing : (mantissa ++ exponent).map Char.toLower ≠ "nan".toList :=
      word _ (by decide)
    dsimp only
    rw [if_neg notInfinite, if_neg notNothing]
    exact digits.read scale negative

end Grammar

end SpecTrace
