import SpecTrace.Number.Decimal

/-! The digits of a natural number and reading digits are inverse to each other. -/

namespace SpecTrace

/-- The digits of a decimal number are the first ten digit characters. -/
theorem digitValue?_ten {c : Char} {digit : Nat} (read : digitValue? 10 c = some digit) :
    digit < 10 ∧ c = Nat.digitChar digit := by
  -- Letters have values from ten on, so only the first branch stays below the radix.
  unfold digitValue? at read
  simp only [Option.ite_none_right_eq_some, Option.some.injEq] at read
  split at read
  · rename_i between
    obtain ⟨small, rfl⟩ := read
    have low : 48 ≤ c.toNat := between.1
    refine ⟨small, ?_⟩
    -- The character is told by its distance from zero.
    have code : c = Char.ofNat (48 + (c.toNat - '0'.toNat)) := by
      rw [show 48 + (c.toNat - '0'.toNat) = c.toNat from by
        have : '0'.toNat = 48 := rfl
        omega]
      exact (Char.ofNat_toNat c).symm
    generalize c.toNat - '0'.toNat = digit at small code
    subst code
    -- Ten digits, each checked.
    revert digit
    decide
  · split at read
    · omega
    · split at read <;> omega

/-- Each of the first ten digit characters stands for its number. -/
theorem digitValue?_digitChar : ∀ digit < 10, digitValue? 10 (Nat.digitChar digit) = some digit := by
  decide

/-- Digits behind others are read onto the value of those. -/
theorem readDigits?_append (radix value : Nat) (front back : List Char) :
    readDigits? radix value (front ++ back) =
      (readDigits? radix value front).bind fun read => readDigits? radix read back := by
  -- By induction on the digits in front; a character without a value stops both sides.
  induction front generalizing value with
  | nil => rfl
  | cons c rest ih =>
    simp only [List.cons_append, readDigits?]
    cases digitValue? radix c <;> simp [ih]

/-- Digits that are read onto a positive value are its further digits. -/
theorem decimalDigits_of_readDigits? {digits : List Char} {value number : Nat}
    (positive : 0 < value) (read : readDigits? 10 value digits = some number) :
    decimalDigits number = decimalDigits value ++ digits := by
  -- The value is general, because it takes in one digit at each step and stays positive.
  induction digits generalizing value with
  | nil =>
    simp only [readDigits?, Option.some.injEq] at read
    simp [read]
  | cons c rest ih =>
    simp only [readDigits?] at read
    cases one : digitValue? 10 c with
    | none => simp [one] at read
    | some digit =>
      obtain ⟨small, rfl⟩ := digitValue?_ten one
      simp only [one, Option.bind_eq_bind, Option.bind_some] at read
      -- The digit becomes the last one of a positive value.
      have further := ih (by omega) read
      have step : decimalDigits (value * 10 + digit) = decimalDigits value ++ [digit.digitChar] := by
        unfold decimalDigits
        rw [Nat.mul_comm, ← Nat.toDigits_append_toDigits (by decide) positive small,
          Nat.toDigits_of_lt_base small]
      rw [further, step, List.append_assoc, List.singleton_append]

/-- The digits of a number read back as the number. -/
theorem readDigits?_decimalDigits (number : Nat) :
    readDigits? 10 0 (decimalDigits number) = some number := by
  -- The induction removes the last digit.
  induction number using Nat.strongRecOn with
  | _ number ih =>
    unfold decimalDigits
    rw [Nat.toDigits_eq_if (by decide)]
    split
    · rename_i small
      simp [readDigits?, digitValue?_digitChar number small]
    · -- The other digits are read onto a tenth, to which the last digit is added.
      rename_i large
      have front := ih (number / 10) (by omega)
      unfold decimalDigits at front
      rw [readDigits?_append, front]
      simp only [Option.bind_some, readDigits?,
        digitValue?_digitChar (number % 10) (Nat.mod_lt _ (by decide)), Option.bind_eq_bind,
        Option.some.injEq]
      omega

/-- The digits of a positive number begin with no zero. -/
theorem decimalDigits_head {number : Nat} (positive : 0 < number) :
    (decimalDigits number).head? ≠ some '0' := by
  -- The induction removes the last digit, which leaves the first one alone.
  induction number using Nat.strongRecOn with
  | _ number ih =>
    unfold decimalDigits
    rw [Nat.toDigits_eq_if (by decide)]
    split
    · -- A single digit is checked.
      rename_i small
      have nonzero : ∀ digit < 10, 0 < digit → Nat.digitChar digit ≠ '0' := by decide
      simpa using nonzero number small positive
    · -- The first digit is that of the front.
      have front := ih (number / 10) (by omega) (by omega)
      unfold decimalDigits at front
      cases digits : Nat.toDigits 10 (number / 10) with
      | nil => exact absurd digits Nat.toDigits_ne_nil
      | cons c rest => simpa [digits] using front

end SpecTrace
