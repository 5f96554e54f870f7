import Mathlib.Data.ENat.Basic
import SpecTrace.Locate.Issue

/-! The order of issues: by magnitude, the largest first, and those of one magnitude as they came. -/

namespace SpecTrace

/-! ### Stable orders -/

section

variable {α κ : Type} [LinearOrder κ] {key : α → κ} {items sorted other : List α}

/-- Items in the order of descending keys, where those of one key are in the order they had. -/
structure StablySorted (key : α → κ) (items sorted : List α) : Prop where
  descending : sorted.Pairwise fun a b => key b ≤ key a
  stable : ∀ k, sorted.filter (fun a => decide (key a = k)) =
    items.filter (fun a => decide (key a = k))

namespace StablySorted

/-- Sorting keeps all items and adds none. -/
theorem mem_iff (order : StablySorted key items sorted) {a : α} : a ∈ sorted ↔ a ∈ items := by
  -- Both lists have the same items with the key of this one.
  have same := congrArg (a ∈ ·) (order.stable (key a))
  simpa using same

/-- The first of the sorted items has the largest key. -/
theorem le_head {first : α} {rest : List α} (order : StablySorted key items (first :: rest))
    {a : α} (member : a ∈ items) : key a ≤ key first := by
  rcases List.mem_cons.mp (order.mem_iff.mpr member) with rfl | behind
  · exact le_rfl
  · exact (List.pairwise_cons.mp order.descending).1 a behind

/-- There is one stable order only. -/
theorem unique (one : StablySorted key items sorted) (two : StablySorted key items other) :
    sorted = other := by
  -- By induction on the sorted list: the heads are the same, and without them both lists are stable
  -- orders of what is left.
  induction sorted generalizing items other with
  | nil =>
    refine (List.eq_nil_iff_forall_not_mem.mpr fun a member => ?_).symm
    exact List.not_mem_nil (one.mem_iff.mpr (two.mem_iff.mp member))
  | cons a rest ih =>
    cases other with
    | nil => exact absurd (two.mem_iff.mpr (one.mem_iff.mp List.mem_cons_self)) List.not_mem_nil
    | cons b behind =>
      -- Both heads have the largest key, and are the first item that has it.
      have keys : key a = key b :=
        le_antisymm (two.le_head (one.mem_iff.mp List.mem_cons_self))
          (one.le_head (two.mem_iff.mp List.mem_cons_self))
      have classes : ∀ k, (a :: rest).filter (fun c => decide (key c = k)) =
          (b :: behind).filter (fun c => decide (key c = k)) :=
        fun k => (one.stable k).trans (two.stable k).symm
      have heads := classes (key a)
      rw [List.filter_cons_of_pos (by simp), List.filter_cons_of_pos (by simp [keys])] at heads
      obtain ⟨rfl, _⟩ := List.cons.inj heads
      have same : StablySorted key rest rest :=
        ⟨(List.pairwise_cons.mp one.descending).2, fun _ => rfl⟩
      congr 1
      refine ih same ⟨(List.pairwise_cons.mp two.descending).2, fun k => ?_⟩
      have tails := classes k
      by_cases same : key a = k
      · rw [List.filter_cons_of_pos (by simp [same]), List.filter_cons_of_pos (by simp [same])]
          at tails
        exact (List.cons.inj tails).2.symm
      · rw [List.filter_cons_of_neg (by simp [same]), List.filter_cons_of_neg (by simp [same])]
          at tails
        exact tails.symm

end StablySorted

/-- Merging sorts stably, if it compares by the keys. -/
theorem stablySorted_mergeSort {le : α → α → Bool}
    (compares : ∀ a ∈ items, ∀ b ∈ items, le a b = decide (key b ≤ key a)) :
    StablySorted key items (items.mergeSort le) := by
  -- On these items the comparison is the one of the keys.
  have byKey : items.mergeSort le = items.mergeSort fun a b => decide (key b ≤ key a) := by
    simpa using List.map_mergeSort (f := id) compares
  have trans : ∀ a b c : α, decide (key b ≤ key a) = true → decide (key c ≤ key b) = true →
      decide (key c ≤ key a) = true := by
    intro a b c first second
    simp only [decide_eq_true_eq] at first second ⊢
    exact second.trans first
  have total : ∀ a b : α, (decide (key b ≤ key a) || decide (key a ≤ key b)) = true := by
    intro a b
    simpa using le_total (key b) (key a)
  rw [byKey]
  refine ⟨?_, fun k => ?_⟩
  · simpa using List.pairwise_mergeSort trans total items
  -- The items of one key are sorted already, so they stay in their order.
  · have ofKey : (items.filter fun a => decide (key a = k)).Pairwise
        fun a b => decide (key b ≤ key a) = true := by
      refine List.pairwise_filter.mpr (List.pairwise_of_forall ?_)
      intro a b first second
      simp_all
    have kept := List.sublist_mergeSort trans total ofKey List.filter_sublist
    have inside := kept.filter fun a => decide (key a = k)
    rw [List.filter_filter] at inside
    simp only [Bool.and_self] at inside
    have count := ((List.mergeSort_perm items fun a b => decide (key b ≤ key a)).filter
      fun a => decide (key a = k)).length_eq
    exact (inside.eq_of_length count.symm).symm

end

/-! ### Magnitudes -/

/-- Between two ranks that follow each other the magnitude grows. -/
theorem Finite64.unitsOfRank_lt_succ (rank : Nat) : unitsOfRank rank < unitsOfRank (rank + 1) := by
  unfold unitsOfRank
  dsimp only
  have positive : 0 < Nat.pow 2 52 := by decide
  generalize Nat.pow 2 52 = count at positive ⊢
  by_cases small : rank + 1 < count
  · rw [if_pos small, if_pos (by omega)]
    exact Nat.lt_succ_self rank
  · rw [if_neg small]
    by_cases last : rank < count
    · -- The first magnitude with a full mantissa follows the largest one without it.
      have next : rank + 1 = count := by omega
      rw [if_pos last, next, Nat.mod_self, Nat.div_self positive]
      simpa using last
    · -- The rank is that of a mantissa at one of the exponents.
      obtain ⟨exponent, mantissa, below, rfl⟩ : ∃ exponent mantissa, mantissa < count ∧
          rank = count * (exponent + 1) + mantissa := by
        have least : 1 ≤ rank / count := (Nat.one_le_div_iff positive).mpr (by omega)
        refine ⟨rank / count - 1, rank % count, Nat.mod_lt _ positive, ?_⟩
        rw [Nat.sub_add_cancel least, Nat.div_add_mod]
      have scale : 0 < Nat.pow 2 exponent := Nat.pow_pos (by decide)
      rw [if_neg last, Nat.mul_add_mod, Nat.mod_eq_of_lt below, Nat.mul_add_div positive,
        Nat.div_eq_of_lt below, Nat.add_assoc _ mantissa, Nat.add_zero, Nat.add_sub_cancel]
      by_cases within : mantissa + 1 < count
      · rw [Nat.mul_add_mod, Nat.mod_eq_of_lt within, Nat.mul_add_div positive,
          Nat.div_eq_of_lt within]
        exact Nat.mul_lt_mul_of_pos_right (by omega) scale
      · -- Behind the largest mantissa comes the smallest one at the next exponent.
        have full : mantissa + 1 = count := by omega
        rw [full, ← Nat.mul_succ, Nat.mul_mod_right, Nat.mul_div_cancel_left _ positive]
        have twice : Nat.pow 2 (exponent + 1) = 2 * Nat.pow 2 exponent := Nat.pow_succ'
        rw [Nat.add_zero, Nat.succ_sub_one, twice, ← Nat.mul_assoc]
        exact Nat.mul_lt_mul_of_pos_right (by omega) scale

/-- Magnitudes grow with ranks. -/
theorem Finite64.unitsOfRank_le_iff {rank other : Nat} :
    unitsOfRank rank ≤ unitsOfRank other ↔ rank ≤ other :=
  (strictMono_nat_of_lt_succ unitsOfRank_lt_succ).le_iff_le

/-- The magnitude of a value in units of the smallest one; what is no number is larger than all
numbers. -/
def Binary64.magnitude : Binary64 → ENat
  | .finite x => x.units
  | .infinite _ => ⊤
  | .nan => ⊤

/-- Numbers are ranked by their magnitudes. -/
theorem Binary64.magnitudeRank_le_iff {x y : Finite64} :
    magnitudeRank (.finite x) ≤ magnitudeRank (.finite y) ↔
      magnitude (.finite x) ≤ magnitude (.finite y) := by
  simp only [magnitudeRank, magnitude, Nat.cast_le]
  exact Finite64.unitsOfRank_le_iff.symm

end SpecTrace
