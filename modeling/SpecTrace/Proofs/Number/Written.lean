import Mathlib.Algebra.Group.Nat.Defs
import SpecTrace.Proofs.Number.Shortest
import SpecTrace.Proofs.Number.Spelling
import SpecTrace.Proofs.Json.Proper

/-! The text of a number is a number of the grammar, and its value is the number. -/

namespace SpecTrace

open Grammar

/-! ### Digits -/

/-- The digits of a number are digits. -/
theorem isDigits_decimalDigits (number : Nat) : IsDigits (decimalDigits number) :=
  ⟨Nat.toDigits_ne_nil, fun _ member =>
    Nat.isDigit_of_mem_toDigits (by decide) (by decide) member⟩

/-- The digits of a number begin with a zero only if they are a lone one. -/
theorem whole_decimalDigits (number : Nat) : Whole (decimalDigits number) := by
  rcases Nat.eq_zero_or_pos number with rfl | positive
  · exact .zero
  -- The first digit of a positive number is no zero.
  · have head := decimalDigits_head positive
    have digits := isDigits_decimalDigits number
    cases spelled : decimalDigits number with
    | nil => exact absurd spelled digits.1
    | cons first rest =>
      rw [spelled] at head digits
      exact .positive (by simpa using head) digits

/-- What digits spell, in the words of the library. -/
theorem valueOfDigits_eq (digits : List Char) :
    valueOfDigits digits = Nat.ofDigitChars 10 digits 0 := by
  rw [Nat.ofDigitChars_eq_foldl]
  simp only [valueOfDigits, Nat.mul_comm]

/-- The digits of a number spell the number. -/
@[simp] theorem valueOfDigits_decimalDigits (number : Nat) :
    valueOfDigits (decimalDigits number) = number := by
  rw [valueOfDigits_eq]
  exact Nat.ofDigitChars_ten_toDigits

/-- Zeros behind digits are factors of ten. -/
theorem valueOfDigits_zeros (digits : List Char) (count : Nat) :
    valueOfDigits (digits ++ List.replicate count '0') = valueOfDigits digits * 10 ^ count := by
  rw [valueOfDigits_eq, valueOfDigits_eq, Nat.ofDigitChars_append, Nat.ofDigitChars_replicate_zero,
    Nat.mul_comm]

/-- Zeros in front of digits count nothing. -/
theorem valueOfDigits_leading (digits : List Char) (count : Nat) :
    valueOfDigits (List.replicate count '0' ++ digits) = valueOfDigits digits := by
  rw [valueOfDigits_eq, valueOfDigits_eq, Nat.ofDigitChars_append, Nat.ofDigitChars_replicate_zero,
    Nat.mul_zero]

/-- Zeros are digits. -/
theorem isDigit_of_mem_zeros (count : Nat) : ∀ c ∈ List.replicate count '0', c.isDigit = true := by
  intro c member
  rw [(List.mem_replicate.mp member).2]
  rfl

/-! ### Integers -/

/-- The text of an integer is a number without a point and an exponent. -/
theorem number_decimalInteger (value : Int) :
    ∃ parts, Number (decimalInteger value) parts ∧ parts.integer = value ∧ parts.fraction = [] ∧
      parts.exponent = none := by
  -- The sign of an integer is written exactly if it is negative.
  cases value with
  | ofNat number =>
    have spelled := Number.mk .absent (whole_decimalDigits number) .absent .absent
    simp only [List.nil_append, List.append_nil] at spelled
    exact ⟨_, spelled, by simp [Parts.integer], rfl, rfl⟩
  | negSucc number =>
    have spelled := Number.mk .present (whole_decimalDigits (number + 1)) .absent .absent
    simp only [List.cons_append, List.nil_append, List.append_nil] at spelled
    exact ⟨_, spelled, by simp [Parts.integer, Int.negSucc_eq], rfl, rfl⟩

/-! ### Decimals -/

/-- The exponent of a decimal that is written with one. -/
theorem exponent_decimalInteger (power : Int) :
    Exponent ((if power < 0 then ['e'] else ['e', '+']) ++ decimalInteger power) (some power) := by
  -- A plus stands in front of an exponent that is not negative.
  cases power with
  | ofNat number =>
    have spelled := Exponent.present (Or.inl rfl) .plus (isDigits_decimalDigits number)
    have notNegative : ¬(Int.ofNat number < 0) := by
      rw [Int.ofNat_eq_natCast]
      omega
    rw [valueOfDigits_decimalDigits] at spelled
    rw [if_neg notNegative]
    exact spelled
  | negSucc number =>
    have spelled := Exponent.present (Or.inl rfl) .minus (isDigits_decimalDigits (number + 1))
    rw [valueOfDigits_decimalDigits] at spelled
    rw [if_pos (Int.negSucc_lt_zero number)]
    exact spelled

/-- A text spells a positive decimal: it is a magnitude of the grammar with a point or an
exponent, and the decimal is what is rounded. -/
def Decimal.Spells (d : Decimal) (text : List Char) : Prop :=
  ∃ whole point exponent fraction power, text = whole ++ (point ++ exponent) ∧ Whole whole ∧
    Fraction point fraction ∧ Exponent exponent power ∧ (fraction ≠ [] ∨ power ≠ none) ∧
    ∀ negative, Parts.binary ⟨negative, whole, fraction, power⟩ =
      .ofDecimal negative d.digits d.exponent

section

variable {d : Decimal} {digits : List Char}

/-- Digits that begin as those of a positive number do are a whole part. -/
theorem whole_of_head {number : Nat} (positive : 0 < number) (spelled : IsDigits digits)
    (same : digits.head? = (decimalDigits number).head?) : Whole digits := by
  have first := decimalDigits_head positive
  cases digits with
  | nil => exact absurd rfl spelled.1
  -- A leading zero would be the first digit of the positive number.
  | cons c rest =>
    refine .positive ?_ spelled
    rintro rfl
    exact first same.symm

/-- A decimal without a fraction gets a zero behind the point. -/
theorem Decimal.spells_whole (positive : 0 < d.digits) (whole : 0 ≤ d.exponent) :
    d.Spells (decimalDigits d.digits ++ List.replicate d.exponent.toNat '0' ++ ['.', '0']) := by
  have digits := (isDigits_decimalDigits d.digits).append
    (isDigit_of_mem_zeros d.exponent.toNat)
  -- The zeros stand behind the digits, so the first digit is that of the number.
  have begins : (decimalDigits d.digits ++ List.replicate d.exponent.toNat '0').head? =
      (decimalDigits d.digits).head? := by
    cases spelled : decimalDigits d.digits with
    | nil => exact absurd spelled Nat.toDigits_ne_nil
    | cons c rest => rfl
  have point : IsDigits ['0'] := ⟨nofun, by simp [Char.isDigit]⟩
  refine ⟨_, _, _, _, _, (List.append_nil _ ▸ rfl), whole_of_head positive digits begins,
    .present point, .absent, Or.inl nofun, fun negative => ?_⟩
  -- The zeros are factors of ten, and the point takes one of them back.
  have zeros := valueOfDigits_zeros (decimalDigits d.digits) (d.exponent.toNat + 1)
  rw [List.replicate_succ', ← List.append_assoc, valueOfDigits_decimalDigits] at zeros
  unfold Parts.binary
  simp only [zeros, Option.getD_none, List.length_singleton]
  rw [Binary64.ofDecimal_scale negative positive]
  congr 1
  omega

/-- A point stands between the digits. -/
theorem Decimal.spells_point (positive : 0 < d.digits) {count : Nat} (before : 0 < count)
    (behind : (count : Int) = (decimalDigits d.digits).length + d.exponent)
    (negative : d.exponent < 0) :
    d.Spells ((decimalDigits d.digits).take count ++ '.' :: (decimalDigits d.digits).drop count) := by
  have digits := isDigits_decimalDigits d.digits
  have both := List.take_append_drop count (decimalDigits d.digits)
  -- The point stands inside of the digits: some are in front of it, and some behind.
  have filled : (decimalDigits d.digits).drop count ≠ [] := by
    intro nothing
    have := List.drop_eq_nil_iff.mp nothing
    omega
  have whole : IsDigits ((decimalDigits d.digits).take count) := by
    refine ⟨fun nothing => ?_, fun c member => digits.2 c (List.mem_of_mem_take member)⟩
    rcases List.take_eq_nil_iff.mp nothing with zero | zero
    · omega
    · exact digits.1 zero
  have fraction : IsDigits ((decimalDigits d.digits).drop count) :=
    ⟨filled, fun c member => digits.2 c (List.mem_of_mem_drop member)⟩
  have begins : ((decimalDigits d.digits).take count).head? = (decimalDigits d.digits).head? := by
    rw [List.head?_take, if_neg (by omega)]
  refine ⟨_, _, _, _, _, by rw [List.append_nil], whole_of_head positive whole begins,
    .present fraction, .absent, Or.inl filled, fun sign => ?_⟩
  -- The digits on both sides are those of the decimal, and the point counts those behind it.
  unfold Parts.binary
  simp only [both, valueOfDigits_decimalDigits, Option.getD_none, List.length_drop]
  congr 1
  omega

/-- Zeros stand between the point and the digits. -/
theorem Decimal.spells_small {count : Nat}
    (behind : (count : Int) = -((decimalDigits d.digits).length + d.exponent)) :
    d.Spells ('0' :: '.' :: List.replicate count '0' ++ decimalDigits d.digits) := by
  have digits := isDigits_decimalDigits d.digits
  -- All digits stand behind the point, the zeros in front of them.
  have fraction : IsDigits (List.replicate count '0' ++ decimalDigits d.digits) := by
    refine ⟨by simp [digits.1], fun c member => ?_⟩
    rcases List.mem_append.mp member with zero | digit
    · exact isDigit_of_mem_zeros count c zero
    · exact digits.2 c digit
  refine ⟨['0'], _, _, _, _, by rw [List.append_nil]; rfl, .zero, .present fraction, .absent,
    Or.inl fraction.1, fun sign => ?_⟩
  -- The zeros in front add nothing to the value.
  have value := valueOfDigits_leading (decimalDigits d.digits) (count + 1)
  rw [List.replicate_succ, valueOfDigits_decimalDigits] at value
  unfold Parts.binary
  simp only [List.cons_append, List.nil_append, Option.getD_none, List.length_append,
    List.length_replicate] at value ⊢
  rw [value]
  congr 1
  omega

/-- An exponent stands behind the digits. -/
theorem Decimal.spells_exponent (positive : 0 < d.digits) {power : Int}
    (behind : power = (decimalDigits d.digits).length + d.exponent - 1) :
    d.Spells
      ((if (decimalDigits d.digits).length = 1 then decimalDigits d.digits
        else (decimalDigits d.digits).take 1 ++ '.' :: (decimalDigits d.digits).drop 1) ++
        (if power < 0 then ['e'] else ['e', '+']) ++ decimalInteger power) := by
  -- The digits are those of the decimal, and the point is put behind the first of them.
  have digits := isDigits_decimalDigits d.digits
  have value := valueOfDigits_decimalDigits d.digits
  have head := @whole_of_head _ _ positive digits rfl
  rw [List.append_assoc]
  cases spelled : decimalDigits d.digits with
  | nil => exact absurd spelled digits.1
  | cons first rest =>
    rw [spelled] at digits value behind head
    simp only [List.length_cons] at behind ⊢
    -- A single digit is written without a point.
    cases rest with
    | nil =>
      refine ⟨[first], [], _, [], _, by simp, head, .absent, exponent_decimalInteger power,
        Or.inr nofun, fun sign => ?_⟩
      unfold Parts.binary
      simp only [List.append_nil, value, Option.getD_some, List.length_nil] at behind ⊢
      congr 1
      omega
    | cons second others =>
      have fraction : IsDigits (second :: others) :=
        ⟨nofun, fun c member => digits.2 c (List.mem_cons_of_mem _ member)⟩
      -- Only the first digit stands in front of the point.
      have whole : Whole [first] := by
        refine whole_of_head positive ⟨nofun, ?_⟩ (by rw [spelled]; rfl)
        simpa using digits.2 first List.mem_cons_self
      refine ⟨[first], '.' :: second :: others, _, _, _, by simp, whole, .present fraction,
        exponent_decimalInteger power, Or.inl nofun, fun sign => ?_⟩
      unfold Parts.binary
      simp only [List.cons_append, List.nil_append, value, Option.getD_some, List.length_cons]
        at behind ⊢
      congr 1
      omega

/-- The text of a positive decimal spells it. -/
theorem Decimal.spells_text (positive : 0 < d.digits) : d.Spells d.text := by
  unfold Decimal.text
  dsimp only
  -- The magnitude decides between the four ways of writing.
  split
  · rename_i large
    exact spells_whole positive large.1
  · split
    · rename_i notLarge inside
      exact spells_point positive (by omega) (by omega) (by omega)
    · split
      · exact spells_small (by omega)
      · exact spells_exponent positive rfl

end

/-! ### Numbers -/

/-- The text of a binary64 number is a number of the grammar that is rounded to it. -/
theorem Finite64.spelled (x : Finite64) :
    ∃ parts, Number x.text parts ∧ parts.value? = some (.float x) := by
  -- The sign is spelled by itself, and the magnitude follows in one of the forms that a number is
  -- written in.
  obtain ⟨minus, sign⟩ : ∃ minus, Minus minus x.negative ∧
      (if x.negative then ['-'] else []) = minus := by
    cases x.negative with
    | true => exact ⟨_, .present, rfl⟩
    | false => exact ⟨_, .absent, rfl⟩
  -- With a point or an exponent no number is an integer.
  have float : ∀ {whole fraction : List Char} {power : Option Int},
      (fraction ≠ [] ∨ power ≠ none) →
      Parts.binary ⟨x.negative, whole, fraction, power⟩ = .finite x →
      Parts.value? ⟨x.negative, whole, fraction, power⟩ = some (.float x) := by
    intro whole fraction power written rounded
    have notInteger : ¬Parts.IsInteger ⟨x.negative, whole, fraction, power⟩ := by
      rintro ⟨noFraction, noPower, _⟩
      rcases written with present | present
      · exact present noFraction
      · exact present noPower
    rw [Parts.value?, if_neg notInteger, rounded]
    rfl
  unfold Finite64.text
  dsimp only
  rw [sign.2]
  -- A zero is written by itself; any other number as its shortest decimal.
  split
  · rename_i zero
    have zeros : IsDigits ['0'] := Whole.zero.isDigits
    refine ⟨_, .mk sign.1 .zero (.present zeros) .absent, float (Or.inl zeros.1) ?_⟩
    have same : x = .signedZero x.negative := by
      cases x
      simp only [Finite64.signedZero, Finite64.mk.injEq, true_and]
      exact Fin.ext zero
    conv => rhs; rw [same]
    rfl
  · rename_i nonzero
    have reads := x.toBinary64_shortestDecimal
    -- A decimal without digits would read back as zero.
    have positive : 0 < x.shortestDecimal.digits := by
      refine Nat.pos_of_ne_zero fun nothing => nonzero ?_
      unfold Decimal.toBinary64 Binary64.ofDecimal at reads
      dsimp only at reads
      rw [if_pos (Or.inl nothing)] at reads
      exact (congrArg (fun y : Finite64 => y.rank.val) (Binary64.finite.inj reads)).symm
    obtain ⟨whole, point, exponent, fraction, power, same, digits, behind, scale, written, binary⟩ :=
      Decimal.spells_text positive
    rw [same]
    refine ⟨_, .mk sign.1 digits behind scale, float written ?_⟩
    rw [binary]
    exact Binary64.ofDecimal_sign reads x.negative

/-- The text of a number in range is a number of the grammar, and its value is the number. -/
theorem JsonNumber.spelled {value : JsonNumber} (inRange : value.InRange) :
    ∃ parts, Number value.text parts ∧ parts.value? = some value := by
  -- An integer is written without a point, which the grammar values as an integer if it is in
  -- range.
  cases value with
  | float x => exact x.spelled
  | int i =>
    obtain ⟨parts, number, same, noFraction, noPower⟩ := number_decimalInteger i
    have integer : parts.IsInteger := ⟨noFraction, noPower, by rw [same]; exact inRange⟩
    exact ⟨parts, number, by rw [Parts.value?, if_pos integer, same]⟩

end SpecTrace
