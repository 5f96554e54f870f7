import SpecTrace.Proofs.Text.Utf8
import SpecTrace.Text.Order

/-! Texts are ordered strictly, and sorted by texts that differ, items are in strict order. -/

namespace SpecTrace

/-- Lists are compared as the library compares them. -/
theorem compareLists_eq {α : Type} (compareItems : α → α → Ordering) (as bs : List α) :
    compareLists compareItems as bs = List.compareLex compareItems as bs := by
  -- The second list is general, since both lists are followed together.
  induction as generalizing bs with
  | nil => cases bs <;> rfl
  | cons a as ih =>
    cases bs with
    | nil => rfl
    | cons b bs =>
      -- The first items decide, unless they are equal.
      rw [compareLists, List.compareLex_cons_cons, ih]

/-- Texts are compared as the lists of their bytes. -/
theorem compareText_eq (a b : String) :
    compareText a b = List.compareLex compare (Utf8.encode a.toList) (Utf8.encode b.toList) :=
  compareLists_eq _ _ _

/-- Different texts have different bytes. -/
theorem Utf8.encode_inj {a b : List Char} (same : encode a = encode b) : a = b := by
  have decoded := congrArg decode same
  rw [decode_encode, decode_encode] at decoded
  exact (List.map_inj_right fun _ _ => Option.some.inj).mp decoded

/-- Only equal texts are on one level. -/
theorem compareText_eq_eq_iff {a b : String} : compareText a b = .eq ↔ a = b := by
  -- The order of bytes is lawful, and texts are told apart by their bytes.
  rw [compareText_eq, Std.LawfulEqCmp.compare_eq_iff_eq]
  exact ⟨fun same => String.toList_injective (Utf8.encode_inj same), fun same => by rw [same]⟩

/-- Texts come one after the other, from text to text. -/
theorem compareText_isLE_trans {a b c : String} (first : (compareText a b).isLE)
    (second : (compareText b c).isLE) : (compareText a c).isLE := by
  rw [compareText_eq] at first second ⊢
  exact Std.TransCmp.isLE_trans first second

/-- Texts are in a linear order. -/
instance : Std.TransCmp compareText where
  eq_swap {a b} := by
    rw [compareText_eq, compareText_eq]
    exact Std.OrientedCmp.eq_swap
  isLE_trans := compareText_isLE_trans

/-- Of two texts one comes first, or they are equal. -/
theorem compareText_isLE_total (a b : String) :
    ((compareText a b).isLE || (compareText b a).isLE) = true := by
  have swapped : compareText a b = (compareText b a).swap := Std.OrientedCmp.eq_swap
  rw [swapped]
  cases compareText b a <;> rfl

/-- A beginning that lists have in common makes no difference to their order. -/
theorem compareLists_append (p q r : List String) :
    compareLists compareText (p ++ q) (p ++ r) = compareLists compareText q r := by
  induction p with
  | nil => rfl
  | cons name p ih => rw [List.cons_append, List.cons_append, compareLists,
      compareText_eq_eq_iff.mpr rfl, Ordering.eq_then, ih]

/-- Sorting keeps the items. -/
theorem mem_sortByText {α : Type} {textOf : α → String} {items : List α} {item : α} :
    item ∈ sortByText textOf items ↔ item ∈ items :=
  List.mem_mergeSort

/-- Sorted by texts that differ, items are in strict order. -/
theorem sortByText_pairwise {α : Type} {textOf : α → String} {items : List α}
    (texts : (items.map textOf).Nodup) :
    (sortByText textOf items).Pairwise fun a b => compareText (textOf a) (textOf b) = .lt := by
  -- Sorting alone gives an order in which equal texts may stand side by side.
  have ordered : (sortByText textOf items).Pairwise fun a b =>
      (compareText (textOf a) (textOf b)).isLE = true := by
    apply List.pairwise_mergeSort
    · intro a b c first second
      exact compareText_isLE_trans first second
    · intro a b
      exact compareText_isLE_total (textOf a) (textOf b)
  -- Sorting repeats no text either.
  have same : (sortByText textOf items).Perm items := List.mergeSort_perm _ _
  have distinct : ((sortByText textOf items).map textOf).Nodup := (same.map textOf).nodup_iff.mpr texts
  rw [List.Nodup, List.pairwise_map] at distinct
  -- Texts that do not repeat are in strict order.
  refine (ordered.and distinct).imp ?_
  rintro a b ⟨upTo, different⟩
  rw [Ordering.isLE_iff_eq_lt_or_eq_eq] at upTo
  exact upTo.resolve_right fun same => different (compareText_eq_eq_iff.mp same)

end SpecTrace
