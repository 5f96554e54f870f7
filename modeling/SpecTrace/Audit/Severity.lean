import SpecTrace.Audit.Fault
import SpecTrace.Number.Decimal

/-! How severe an issue is, and how its score is shown. -/

namespace SpecTrace

/-- The label of a criticality. -/
inductive Severity where
  | low
  | medium
  | high
  | critical
deriving DecidableEq, Repr

namespace Severity

/-- The severity of a criticality from one to five. -/
def ofCriticality (criticality : Int) : Except AuditFault Severity :=
  if criticality = 1 ∨ criticality = 2 then .ok .low
  else if criticality = 3 then .ok .medium
  else if criticality = 4 then .ok .high
  else if criticality = 5 then .ok .critical
  else .error (.invalidCriticality criticality)

/-- The name of a severity in output. -/
def name : Severity → String
  | .low => "LOW"
  | .medium => "MEDIUM"
  | .high => "HIGH"
  | .critical => "CRITICAL"

end Severity

/-- The number in units of `2 ^ -1074`, with its sign. -/
def Finite64.signedUnits (x : Finite64) : Int :=
  if x.negative then -(x.units : Int) else x.units

namespace Binary64

/-- The number without its sign. -/
def abs : Binary64 → Binary64
  | .finite x => .finite x.abs
  | .infinite _ => .infinite false
  | .nan => .nan

/-- The value nearest to the sum of a number and one half. -/
def plusHalf (x : Finite64) : Binary64 :=
  let sum := x.signedUnits + Nat.pow 2 1073
  ofQuotient (decide (sum < 0)) sum.natAbs (Nat.pow 2 1074)

/-- The largest whole number at or below a number, without its sign. -/
def floorMagnitude (x : Finite64) : Nat :=
  (x.signedUnits.fdiv (Nat.pow 2 1074)).natAbs

/-- A score for people: zero, a whole number with halves rounded up, or less than one. Whole
numbers stop at the largest integer of 64 bits with a sign. -/
def displayScore (score : Binary64) : String :=
  let largest : Nat := Nat.pow 2 63 - 1
  let whole (rounded : Nat) : String :=
    if 1 ≤ rounded then toString (min rounded largest) else "less than 1"
  match score with
  | .nan => "less than 1"
  | .infinite _ => toString largest
  | .finite x =>
    if x.rank.val = 0 then "0"
    else
      match plusHalf x with
      | .finite y => whole (floorMagnitude y)
      | _ => toString largest

end Binary64

end SpecTrace
