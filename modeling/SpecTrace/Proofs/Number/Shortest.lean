import Mathlib.Algebra.Group.Nat.Defs
import SpecTrace.Proofs.Number.Digits
import SpecTrace.Json.Number

/-! The decimals of a binary64 number read back as the number: the shortest one, and the one with all
digits that stands in where no short one was found. -/

namespace SpecTrace

/-! ### Rounding -/

/-- A quotient is rounded by its value alone. -/
theorem roundedQuotient_scale {scale : Nat} (positive : 0 < scale) (numerator denominator : Nat) :
    roundedQuotient (numerator * scale) (denominator * scale) =
      roundedQuotient numerator denominator := by
  unfold roundedQuotient
  -- The remainder keeps its proportion to the denominator.
  have compared : compare (2 * (numerator % denominator * scale)) (denominator * scale) =
      compare (2 * (numerator % denominator)) denominator := by
    rw [← Nat.mul_assoc, Nat.compare_eq_ite_lt, Nat.compare_eq_ite_lt]
    simp only [Nat.mul_lt_mul_right positive]
  rw [Nat.mul_div_mul_right _ _ positive, Nat.mul_mod_mul_right, compared]

/-- A whole quotient is not rounded. -/
theorem roundedQuotient_exact {denominator : Nat} (positive : 0 < denominator) (whole : Nat) :
    roundedQuotient (whole * denominator) denominator = whole := by
  have below : compare 0 denominator = .lt := Nat.compare_eq_lt.mpr positive
  simp [roundedQuotient, Nat.mul_div_cancel _ positive, below]

namespace Binary64

/-- The nearest magnitude is that of the value of a quotient. -/
theorem nearestRank_scale {scale : Nat} (positive : 0 < scale) (numerator denominator : Nat) :
    nearestRank (numerator * scale) (denominator * scale) = nearestRank numerator denominator := by
  unfold nearestRank
  generalize Nat.pow 2 1074 = unit
  dsimp only
  -- The factor is common to all quotients that the rank is computed from.
  rw [Nat.mul_right_comm numerator, Nat.mul_div_mul_right _ _ positive, Nat.mul_right_comm denominator,
    roundedQuotient_scale positive]

/-- The nearest value is that of the value of a quotient. -/
theorem ofQuotient_scale {scale : Nat} (positive : 0 < scale) (negative : Bool)
    (numerator denominator : Nat) :
    ofQuotient negative (numerator * scale) (denominator * scale) =
      ofQuotient negative numerator denominator := by
  unfold ofQuotient
  simp only [nearestRank_scale positive]

/-- The bits of a full mantissa that is moved up. -/
theorem log2_mantissa {mantissa : Nat} (full : 2 ^ 52 ≤ mantissa) (small : mantissa < 2 ^ 53)
    (moved : Nat) : (mantissa * 2 ^ moved).log2 = 52 + moved := by
  have positive := Nat.two_pow_pos moved
  -- The highest bit is that of the mantissa, moved up.
  have nonzero : mantissa * 2 ^ moved ≠ 0 := Nat.mul_ne_zero (by omega) (by omega)
  rw [Nat.log2_eq_iff nonzero, show 52 + moved + 1 = 53 + moved by omega, Nat.pow_add, Nat.pow_add]
  exact ⟨Nat.mul_le_mul_right _ full, Nat.mul_lt_mul_of_pos_right small positive⟩

/-- A magnitude that is representable is its own nearest one. The power has a name, so that no step
computes it. -/
theorem nearestRank_unitsOfRank (rank : Nat) {power : Nat} (same : power = 1074) :
    nearestRank (Finite64.unitsOfRank rank) (Nat.pow 2 power) = rank := by
  have positive : 0 < Nat.pow 2 power := Nat.two_pow_pos power
  unfold nearestRank
  rw [← same]
  generalize Nat.pow 2 power = unit at positive
  dsimp only
  -- The unit cancels, so that the magnitude itself is rounded to its leading bits.
  rw [Nat.mul_div_cancel _ positive, Nat.mul_comm unit, roundedQuotient_scale positive]
  unfold Finite64.unitsOfRank
  simp only [Nat.pow_eq]
  split
  · rename_i small
    -- Below 52 bits no bit is dropped.
    have bits : rank.log2 - 52 = 0 := by
      rcases Nat.eq_zero_or_pos rank with rfl | nonzero
      · rfl
      · have := (Nat.log2_lt (Nat.pos_iff_ne_zero.mp nonzero)).mpr small
        omega
    have whole := roundedQuotient_exact Nat.one_pos rank
    rw [bits]
    simpa using whole
  · rename_i large
    -- Above, all bits but those of the mantissa are dropped, and they are zero.
    have rest : rank % 2 ^ 52 < 2 ^ 52 := Nat.mod_lt _ (by decide)
    have level : 1 ≤ rank / 2 ^ 52 := (Nat.le_div_iff_mul_le (by decide)).mpr (by omega)
    have parts := Nat.div_add_mod rank (2 ^ 52)
    have bits := log2_mantissa (Nat.le_add_right (2 ^ 52) (rank % 2 ^ 52)) (by omega)
      (rank / 2 ^ 52 - 1)
    rw [bits, Nat.add_sub_cancel_left, roundedQuotient_exact (Nat.two_pow_pos _)]
    -- What is left is arithmetic on the two parts of the rank.
    generalize rank / 2 ^ 52 = upper at *
    generalize rank % 2 ^ 52 = lower at *
    rw [Nat.sub_mul]
    omega

/-- A representable magnitude is the nearest value of itself as a quotient. -/
theorem ofQuotient_units (negative : Bool) (x : Finite64) {power scale : Nat} (same : power = 1074)
    (positive : 0 < scale) :
    ofQuotient negative (x.units * scale) (Nat.pow 2 power * scale) =
      .finite ⟨negative, x.rank⟩ := by
  -- Among the ranks the one of the magnitude is nearest, since its distance is zero.
  have own : nearestRank (Finite64.unitsOfRank x.rank) (Nat.pow 2 power) = x.rank :=
    nearestRank_unitsOfRank x.rank same
  unfold ofQuotient Finite64.units
  simp only [nearestRank_scale positive, own, x.rank.isLt, dif_pos]

end Binary64

/-! ### Decimals -/

/-- A number has as many digits as the powers of ten it reaches. -/
theorem length_decimalDigits_le {number count : Nat} (positive : 0 < count) :
    (decimalDigits number).length ≤ count ↔ number < 10 ^ count :=
  Nat.length_toDigits_le_iff (by decide) positive

/-- Each factor of ten is one more digit. -/
theorem length_decimalDigits_scale {number : Nat} (positive : 0 < number) (count : Nat) :
    (decimalDigits (number * 10 ^ count)).length = (decimalDigits number).length + count := by
  -- One factor of ten at a time.
  induction count with
  | zero => simp
  | succ count ih =>
    have step := Nat.toDigits_append_toDigits (b := 10) (d := 0) (by decide)
      (Nat.mul_pos positive (Nat.pow_pos (by decide : 0 < 10)) : 0 < number * 10 ^ count) (by decide)
    -- The factor puts one more digit, a zero, behind the others.
    have shifted : number * 10 ^ (count + 1) = 10 * (number * 10 ^ count) + 0 := by
      rw [Nat.pow_succ, Nat.mul_comm 10, Nat.mul_assoc, Nat.add_zero]
    unfold decimalDigits at ih ⊢
    rw [shifted, ← step, List.length_append, ih, Nat.toDigits_zero]
    rfl

namespace Binary64

/-- Powers of ten may stand in the digits or in the exponent. -/
theorem ofDecimal_scale (negative : Bool) {digits : Nat} (positive : 0 < digits) (count : Nat)
    (exponent : Int) :
    ofDecimal negative (digits * 10 ^ count) exponent =
      ofDecimal negative digits (exponent + count) := by
  have scaled : digits * 10 ^ count ≠ 0 := Nat.mul_ne_zero (by omega) (by simp)
  have nonzero : digits ≠ 0 := by omega
  -- The guards against huge exponents see the same magnitude on both sides.
  have magnitude : ((decimalDigits (digits * 10 ^ count)).length : Int) + exponent =
      (decimalDigits digits).length + (exponent + count) := by
    rw [length_decimalDigits_scale positive]
    omega
  unfold ofDecimal
  simp only [magnitude, scaled, nonzero, false_or, Nat.pow_eq]
  congr 2
  -- The power goes from one side of the quotient to the other.
  by_cases whole : 0 ≤ exponent
  · rw [if_pos whole, if_pos (by omega)]
    have power : (exponent + count).toNat = count + exponent.toNat := by omega
    rw [power, Nat.pow_add, Nat.mul_assoc]
  · rw [if_neg whole]
    by_cases moved : 0 ≤ exponent + count
    · have power : count = (exponent + count).toNat + (-exponent).toNat := by omega
      rw [if_pos moved]
      conv => lhs; rw [power]
      rw [Nat.pow_add, ← Nat.mul_assoc]
      have positive : 0 < 10 ^ (-exponent).toNat := Nat.pow_pos (by decide)
      have scale := ofQuotient_scale positive negative (digits * 10 ^ (exponent + count).toNat) 1
      rwa [Nat.one_mul] at scale
    · have power : (-exponent).toNat = (-(exponent + count)).toNat + count := by omega
      rw [if_neg moved, power, Nat.pow_add]
      exact ofQuotient_scale (Nat.pow_pos (by decide)) negative _ _

/-- The sign takes no part in rounding to a quotient. -/
theorem ofQuotient_sign {numerator denominator : Nat} {x : Finite64}
    (rounded : ofQuotient false numerator denominator = .finite x) (negative : Bool) :
    ofQuotient negative numerator denominator = .finite ⟨negative, x.rank⟩ := by
  unfold ofQuotient at rounded ⊢
  dsimp only at rounded ⊢
  -- Whether the rank is finite does not depend on the sign.
  split
  · rename_i finite
    rw [dif_pos finite] at rounded
    cases rounded
    rfl
  · rename_i infinite
    rw [dif_neg infinite] at rounded
    cases rounded

/-- The sign takes no part in rounding. -/
theorem ofDecimal_sign {digits : Nat} {exponent : Int} {x : Finite64}
    (rounded : ofDecimal false digits exponent = .finite x) (negative : Bool) :
    ofDecimal negative digits exponent = .finite ⟨negative, x.rank⟩ := by
  unfold ofDecimal at rounded ⊢
  dsimp only at rounded ⊢
  -- The guards do not look at the sign, and quotients are rounded without it.
  split
  · rename_i zero
    rw [if_pos zero] at rounded
    cases rounded
    rfl
  · rename_i nonzero
    rw [if_neg nonzero] at rounded
    split
    · rename_i huge
      rw [if_pos huge] at rounded
      cases rounded
    · rename_i bounded
      rw [if_neg bounded] at rounded
      split
      · rename_i whole
        rw [if_pos whole] at rounded
        exact ofQuotient_sign rounded negative
      · rename_i fraction
        rw [if_neg fraction] at rounded
        exact ofQuotient_sign rounded negative

end Binary64

namespace Finite64

open Binary64

/-- Zeros at the end of the digits say the same in the exponent. -/
theorem toBinary64_trimZeros (fuel : Nat) (d : Decimal) :
    (d.trimZeros fuel).toBinary64 = d.toBinary64 := by
  -- The decimal is general, since each step trims one zero off.
  induction fuel generalizing d with
  | zero => rfl
  | succ fuel ih =>
    unfold Decimal.trimZeros
    split
    · rename_i zero
      rw [ih]
      -- The last digit is a zero, which the exponent counts instead.
      have tens : d.digits = d.digits / 10 * 10 ^ 1 := by omega
      unfold Decimal.toBinary64
      conv => rhs; rw [tens]
      rw [ofDecimal_scale false (by omega)]
      rfl
    · rfl

/-- Of two decimals only one that passes a check is answered. -/
theorem check_of_answered {check : Decimal → Bool} {nearer farther d : Decimal}
    (answered : (if check nearer then some nearer else if check farther then some farther
      else none) = some d) : check d = true := by
  -- The nearer one is tried first, and the other one only if it does not pass.
  split at answered
  · rename_i passes
    cases answered
    exact passes
  · split at answered
    · rename_i passes
      cases answered
      exact passes
    · cases answered

/-- A candidate reads back. -/
theorem toBinary64_of_candidate? {x : Finite64} {exponent : Int} {d : Decimal}
    (found : x.candidate? exponent = some d) : d.toBinary64 = .finite x.abs := by
  unfold candidate? at found
  extract_lets numerator denominator below remainder readsBack lower upper isLowerNearer at found
  -- The order of the two decimals does not matter.
  generalize (if isLowerNearer = true then (lower, upper) else (upper, lower)) = pair at found
  have passes : readsBack d = true := check_of_answered found
  exact of_decide_eq_true passes

/-- Every magnitude has at most 2098 bits. -/
theorem units_lt (x : Finite64) {bits : Nat} (enough : 2098 ≤ bits) : x.units < 2 ^ bits := by
  unfold units unitsOfRank
  simp only [Nat.pow_eq]
  split
  · rename_i small
    exact Nat.lt_of_lt_of_le small (Nat.pow_le_pow_right (by decide) (by omega))
  -- A mantissa has 53 bits and is moved up by at most 2045 of them.
  · have rest : x.rank.val % 2 ^ 52 < 2 ^ 52 := Nat.mod_lt _ (by decide)
    have level : x.rank.val / 2 ^ 52 < 2047 :=
      (Nat.div_lt_iff_lt_mul (by decide)).mpr x.rank.isLt
    calc (2 ^ 52 + x.rank.val % 2 ^ 52) * 2 ^ (x.rank.val / 2 ^ 52 - 1)
        < 2 ^ 53 * 2 ^ (x.rank.val / 2 ^ 52 - 1) :=
          Nat.mul_lt_mul_of_pos_right (by omega) (Nat.two_pow_pos _)
      _ = 2 ^ (53 + (x.rank.val / 2 ^ 52 - 1)) := (Nat.pow_add ..).symm
      _ ≤ 2 ^ bits := Nat.pow_le_pow_right (by decide) (by omega)

/-- Only zero has no units. -/
theorem rank_eq_zero {x : Finite64} (nothing : x.units = 0) : x.rank = 0 := by
  unfold units unitsOfRank at nothing
  simp only [Nat.pow_eq] at nothing
  -- A mantissa with its leading bit is not zero, however far it is moved up.
  split at nothing
  · exact Fin.ext nothing
  · have positive := Nat.two_pow_pos (x.rank.val / 2 ^ 52 - 1)
    rcases Nat.mul_eq_zero.mp nothing with zero | zero <;> omega

/-- All digits of a magnitude stay far inside of the range. -/
theorem length_exactDecimal {x : Finite64} (large : 0 < x.units) {power : Nat}
    (same : power = 1074) :
    674 ≤ (decimalDigits (x.units * Nat.pow 5 power)).length ∧
      (decimalDigits (x.units * Nat.pow 5 power)).length ≤ 1474 := by
  -- The two powers are compared once, and the rest of the proof uses only the bounds.
  have low : 10 ^ 673 ≤ Nat.pow 5 power := by
    rw [same]
    decide +kernel
  obtain ⟨bits, enough, high⟩ : ∃ bits, 2098 ≤ bits ∧ 2 ^ bits * Nat.pow 5 power ≤ 10 ^ 1474 := by
    refine ⟨2098, Nat.le_refl _, ?_⟩
    rw [same]
    decide +kernel
  have positive : 0 < Nat.pow 5 power := Nat.pow_pos (by decide)
  refine ⟨?_, ?_⟩
  · -- The lower bound: the power of five alone has that many digits.
    have reached := Nat.le_trans low (Nat.le_mul_of_pos_left (Nat.pow 5 power) large)
    have few := mt (@length_decimalDigits_le (x.units * Nat.pow 5 power) 673 (by decide)).mp
      (Nat.not_lt.mpr reached)
    omega
  · -- The upper bound: the units have at most 2098 bits.
    have bounded := Nat.mul_lt_mul_of_pos_right (x.units_lt enough) positive
    exact (length_decimalDigits_le (by decide)).mpr (Nat.lt_of_lt_of_le bounded high)

/-- All digits of a magnitude read back. The power has a name, so that no step computes it. -/
theorem ofDecimal_exact (x : Finite64) {power : Nat} (same : power = 1074) :
    ofDecimal false (x.units * Nat.pow 5 power) (-power) = .finite x.abs := by
  have positive : 0 < Nat.pow 5 power := Nat.pow_pos (by decide)
  -- A power of ten is one of two and one of five.
  have tens : Nat.pow 10 power = Nat.pow 2 power * Nat.pow 5 power := Nat.mul_pow 2 5 power
  have back : (-(-power) : Int).toNat = power := by omega
  unfold ofDecimal
  dsimp only
  -- A zero is read at once; another magnitude passes the guards and is rounded to itself.
  rcases Nat.eq_zero_or_pos x.units with nothing | large
  · rw [nothing, Nat.zero_mul, if_pos (Or.inl rfl), Finite64.abs, rank_eq_zero nothing]
    rfl
  · obtain ⟨low, high⟩ := length_exactDecimal large same
    have nonzero : x.units * Nat.pow 5 power ≠ 0 := Nat.mul_ne_zero (by omega) (by omega)
    rw [if_neg (by omega), if_neg (by omega), if_neg (by omega), back, tens]
    exact ofQuotient_units false x same positive

/-- All digits of a magnitude read back. -/
theorem toBinary64_exactDecimal (x : Finite64) : x.exactDecimal.toBinary64 = .finite x.abs := by
  obtain ⟨power, same⟩ : ∃ power : Nat, power = 1074 := ⟨1074, rfl⟩
  have exponent : (-1074 : Int) = -power := by rw [same]; rfl
  unfold Decimal.toBinary64 exactDecimal
  rw [exponent, ← same]
  exact ofDecimal_exact x same

/-- The shortest decimal reads back. -/
theorem toBinary64_shortestDecimal (x : Finite64) :
    x.shortestDecimal.toBinary64 = .finite x.abs := by
  unfold shortestDecimal
  dsimp only
  -- A short decimal was found, or all digits stand in for it.
  split
  · rename_i d found
    obtain ⟨count, _, candidate⟩ := List.exists_of_findSome?_eq_some found
    rw [toBinary64_trimZeros]
    exact toBinary64_of_candidate? candidate
  · exact toBinary64_exactDecimal x

end Finite64

end SpecTrace
