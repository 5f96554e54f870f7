import SpecTrace.Proofs.Number.DecimalForm

/-! A number of the grammar is read with the value of its parts. -/

namespace SpecTrace

/-- A character that is no digit stops the reading of digits. -/
theorem readDigits?_stop {front rest : List Char} {c : Char} {radix : Nat}
    (other : digitValue? radix c = none) (value : Nat) :
    readDigits? radix value (front ++ c :: rest) = none := by
  -- Whatever is read in front of it, the character has no value.
  induction front generalizing value with
  | nil => simp [readDigits?, other]
  | cons first others ih =>
    simp only [List.cons_append, readDigits?]
    cases digitValue? radix first with
    | none => rfl
    | some digit => exact ih _

namespace Grammar

variable {text minus whole point exponent fraction : List Char} {parts : Parts} {negative : Bool}
  {power : Option Int}

/-- The whole part is digits. -/
theorem Whole.isDigits (whole : Whole text) : IsDigits text := by
  cases whole with
  | zero => exact ⟨by simp, by simp [Char.isDigit]⟩
  | positive leads digits => exact digits

/-- Behind the whole part no digit follows. -/
theorem Fraction.stops (behind : Fraction point fraction) (scale : Exponent exponent power) :
    Stops Char.isDigit (point ++ exponent) := by
  -- Behind the whole part stands the point, or else what follows the fraction.
  cases behind with
  | absent => exact scale.stops
  | present _ =>
    intro c first
    cases first
    rfl

/-- The whole part begins with a digit. -/
theorem Whole.first (digits : Whole whole) :
    ∃ first rest, whole = first :: rest ∧ first.isDigit = true :=
  digits.isDigits.first

/-- A minus is a sign. -/
theorem Minus.sign (sign : Minus minus negative) : Sign minus negative := by
  cases sign with
  | absent => exact .absent
  | present => exact .minus

/-- A whole part with a fraction is a mantissa. -/
theorem Whole.mantissa (digits : Whole whole) (behind : Fraction point fraction) :
    Mantissa (whole ++ point) whole fraction := by
  cases behind with
  | absent =>
    rw [List.append_nil]
    exact .whole digits.isDigits
  | present spelled => exact .point digits.isDigits spelled.2

/-- A number is a decimal form. -/
theorem Number.decimalForm (number : Number text parts) : DecimalForm text parts := by
  cases number with
  | @mk _ whole _ _ _ _ _ sign digits behind scale =>
    rw [← List.append_assoc whole]
    exact .mk sign.sign (digits.mantissa behind) scale

/-- Whether neither a point nor an exponent was written. -/
def Parts.isBare (p : Parts) : Bool :=
  p.fraction.isEmpty && p.exponent.isNone

/-- A point or the mark of an exponent ends the digits of an integer. -/
theorem readDigits?_not_bare (behind : Fraction point fraction) (scale : Exponent exponent power)
    (written : Parts.isBare ⟨negative, whole, fraction, power⟩ = false) :
    readDigits? 10 0 (whole ++ (point ++ exponent)) = none := by
  -- The first character that is no digit is the point, or else the mark of the exponent.
  cases behind with
  | present _ => exact readDigits?_stop (by decide) 0
  | absent =>
    cases scale with
    | absent => simp [Parts.isBare] at written
    | present marks _ _ => rcases marks with rfl | rfl <;> exact readDigits?_stop (by decide) 0

/-- Without a point and an exponent, nothing stands behind the whole part. -/
theorem eq_nil_of_bare (behind : Fraction point fraction) (scale : Exponent exponent power)
    (bare : Parts.isBare ⟨negative, whole, fraction, power⟩ = true) :
    point = [] ∧ exponent = [] ∧ fraction = [] ∧ power = none := by
  -- A point has digits behind it, and an exponent has a power, so neither was written.
  cases behind with
  | present spelled => simp [Parts.isBare, spelled.1] at bare
  | absent =>
    cases scale with
    | absent => simp
    | present _ _ _ => simp [Parts.isBare] at bare

/-- Digits without a sign in front are read as digits. -/
theorem Whole.readInteger? (digits : Whole whole) (rest : List Char) :
    SpecTrace.readInteger? 10 (whole ++ rest) =
      (readDigits? 10 0 (whole ++ rest)).map Int.ofNat := by
  obtain ⟨first, others, rfl, digit⟩ := digits.first
  -- A digit is neither of the two signs.
  have notMinus : first ≠ '-' := by
    rintro rfl
    cases digit
  have notPlus : first ≠ '+' := by
    rintro rfl
    cases digit
  simp [SpecTrace.readInteger?, readNatural?, notMinus, notPlus]

/-- The text of a number without a point and an exponent is read as an integer, and no other
one is. -/
theorem Number.readInteger? (number : Number text parts) :
    SpecTrace.readInteger? 10 text = if parts.isBare then some parts.integer else none := by
  cases number with
  | @mk minus whole point exponent fraction negative power sign digits behind scale =>
    -- Behind the sign, digits are read if nothing but digits is there.
    have read : readDigits? 10 0 (whole ++ (point ++ exponent)) =
        if Parts.isBare ⟨negative, whole, fraction, power⟩ then some (valueOfDigits whole)
        else none := by
      split
      · rename_i bare
        obtain ⟨rfl, rfl, _⟩ := eq_nil_of_bare behind scale bare
        rw [List.append_nil, List.append_nil]
        exact digits.isDigits.read
      · rename_i written
        exact readDigits?_not_bare behind scale (by simpa using written)
    -- The sign decides between the two ways of reading.
    cases sign with
    | absent =>
      rw [List.nil_append, digits.readInteger?, read]
      split <;> rfl
    | present =>
      obtain ⟨first, others, rfl, digit⟩ := digits.first
      simp only [List.cons_append, List.nil_append, SpecTrace.readInteger?] at read ⊢
      rw [read]
      split <;> rfl

/-- An integer is read if 64 bits hold it, with a sign or without, and otherwise the nearest binary64
number. -/
theorem read?_integer {i : Int} {binary : Binary64}
    (integer : SpecTrace.readInteger? 10 text = some i)
    (read : Binary64.read? text = some binary) :
    JsonNumber.read? text =
      if -2 ^ 63 ≤ i ∧ i < 2 ^ 64 then some (.int i) else binary.finite?.map .float := by
  -- Only the bounds of 64 bits are spelled in another way.
  have low : (-(Nat.pow 2 63 : Nat) : Int) = -2 ^ 63 := by decide
  have high : ((Nat.pow 2 64 : Nat) : Int) = 2 ^ 64 := by decide
  unfold JsonNumber.read?
  simp only [integer, read, Option.bind_some, low, high]

/-- A number of the grammar is read with the value of its parts. -/
theorem Number.read? (number : Number text parts) : JsonNumber.read? text = parts.value? := by
  have integer := number.readInteger?
  -- Both sides decide first whether anything stands behind the whole part.
  by_cases bare : parts.isBare = true
  · have nothing : parts.fraction = [] ∧ parts.exponent = none := by
      simpa [Parts.isBare] using bare
    rw [if_pos bare] at integer
    rw [read?_integer integer number.decimalForm.read, Parts.value?]
    simp only [Parts.IsInteger, nothing, true_and]
  · have notInteger : ¬parts.IsInteger := fun all => bare (by simp [Parts.isBare, all.1, all.2.1])
    -- What is not bare is read as a binary number at once.
    rw [if_neg bare] at integer
    unfold JsonNumber.read? Parts.value?
    simp only [integer, number.decimalForm.read, Option.bind_some, if_neg notInteger]

end Grammar

end SpecTrace
