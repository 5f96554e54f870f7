import SpecTrace.Path.Components
import SpecTrace.Proofs.Text.Order

/-! Paths are ordered by their components, so paths that are spelled differently can be equal. -/

namespace SpecTrace

/-- Components are in a linear order. -/
instance : Std.TransCmp PathComponent.compare where
  eq_swap {a b} := by
    -- Only names are compared by their texts.
    cases a <;> cases b <;> first | rfl | exact @Std.OrientedCmp.eq_swap _ compareText _ _ _
  isLE_trans {a b c} first second := by
    cases a <;> cases b <;> cases c <;>
      first | rfl | contradiction | exact compareText_isLE_trans first second

/-- Only equal components are on one level. -/
instance : Std.LawfulEqCmp PathComponent.compare where
  compare_self {a} := by
    cases a <;> first | rfl | exact compareText_eq_eq_iff.mpr rfl
  eq_of_compare {a b} same := by
    cases a <;> cases b <;>
      first | rfl | contradiction | exact congrArg _ (compareText_eq_eq_iff.mp same)

variable {a b c : String}

/-- Paths are on one level if they have the same components. -/
theorem comparePaths_eq_eq_iff : comparePaths a b = .eq ↔ pathComponents a = pathComponents b := by
  rw [comparePaths, compareLists_eq]
  exact Std.LawfulEqCmp.compare_eq_iff_eq

example : comparePaths "d/./a.yaml" "d//a.yaml" = .eq := by decide

/-- Paths come one after the other, from path to path. -/
theorem comparePaths_lt_trans (first : comparePaths a b = .lt) (second : comparePaths b c = .lt) :
    comparePaths a c = .lt := by
  rw [comparePaths, compareLists_eq] at first second ⊢
  exact Std.TransCmp.lt_trans first second

/-- A path comes after another one if that one comes before it. -/
theorem comparePaths_eq_gt_iff : comparePaths a b = .gt ↔ comparePaths b a = .lt := by
  rw [comparePaths, comparePaths, compareLists_eq, compareLists_eq]
  exact Std.OrientedCmp.gt_iff_lt

end SpecTrace
