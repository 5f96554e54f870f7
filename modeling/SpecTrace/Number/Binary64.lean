/-! Binary floating point numbers of 64 bits, and rounding to them from exact quotients. -/

namespace SpecTrace

/-- The natural number nearest to a quotient, a half going to the even neighbour. -/
def roundedQuotient (numerator denominator : Nat) : Nat :=
  let quotient := numerator / denominator
  match compare (2 * (numerator % denominator)) denominator with
  | .lt => quotient
  | .eq => quotient + quotient % 2
  | .gt => quotient + 1

/-- A finite binary64 number. -/
structure Finite64 where
  /-- The sign bit, which a zero has too. -/
  negative : Bool
  /-- How many representable magnitudes are smaller; `2047 * 2 ^ 52` magnitudes are finite. -/
  rank : Fin 9218868437227405312
deriving DecidableEq, Repr

/-- A binary64 value. -/
inductive Binary64 where
  | finite (number : Finite64)
  | infinite (negative : Bool)
  | nan
deriving DecidableEq, Repr

namespace Finite64

/-- The magnitude of a rank, counted in units of `2 ^ -1074`. -/
def unitsOfRank (rank : Nat) : Nat :=
  -- Below the smallest number with a full mantissa the spacing is one unit.
  let count := Nat.pow 2 52
  if rank < count then rank else (count + rank % count) * Nat.pow 2 (rank / count - 1)

/-- The magnitude in units of `2 ^ -1074`. -/
def units (x : Finite64) : Nat :=
  unitsOfRank x.rank

/-- The number without its sign. -/
def abs (x : Finite64) : Finite64 :=
  { x with negative := false }

/-- The zero with a sign. -/
def signedZero (negative : Bool) : Finite64 := ⟨negative, 0⟩

/-- The positive zero. -/
def zero : Finite64 := signedZero false

end Finite64

namespace Binary64

/-- The rank of the magnitude nearest to a quotient, a half going to the even neighbour. -/
def nearestRank (numerator denominator : Nat) : Nat :=
  let units := numerator * Nat.pow 2 1074
  -- Above 53 bits the spacing doubles with each further bit.
  let dropped := (units / denominator).log2 - 52
  dropped * Nat.pow 2 52 + roundedQuotient units (denominator * Nat.pow 2 dropped)

/-- The value with a sign and the magnitude nearest to a quotient; too large ones are infinite. -/
def ofQuotient (negative : Bool) (numerator denominator : Nat) : Binary64 :=
  let rank := nearestRank numerator denominator
  if h : rank < 9218868437227405312 then .finite ⟨negative, ⟨rank, h⟩⟩ else .infinite negative

/-- The nearest value to an integer. -/
def ofInt (i : Int) : Binary64 :=
  ofQuotient (decide (i < 0)) i.natAbs 1

/-- The finite number, if the value is one. -/
def finite? : Binary64 → Option Finite64
  | .finite x => some x
  | _ => none

end Binary64

namespace Finite64

/-- The rounded product. -/
def mul (x y : Finite64) : Binary64 :=
  let unitsOfOne := Nat.pow 2 1074
  Binary64.ofQuotient (x.negative != y.negative) (x.units * y.units) (unitsOfOne * unitsOfOne)

/-- The rounded quotient by a divisor that is not zero. -/
def div (x y : Finite64) : Binary64 :=
  Binary64.ofQuotient (x.negative != y.negative) x.units y.units

end Finite64

end SpecTrace
