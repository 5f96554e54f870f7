import SpecTrace.Text.Utf8

/-! The order of texts by their bytes. -/

namespace SpecTrace

/-- Lists in the order of their first difference; a beginning of a list comes before it. -/
def compareLists {α : Type} (compareItems : α → α → Ordering) : List α → List α → Ordering
  | [], [] => .eq
  | [], _ :: _ => .lt
  | _ :: _, [] => .gt
  | a :: as, b :: bs => (compareItems a b).then (compareLists compareItems as bs)

/-- Texts in the order of their bytes. -/
def compareText (a b : String) : Ordering :=
  compareLists compare (Utf8.encode a.toList) (Utf8.encode b.toList)

/-- Sorts by a text that each item has. -/
def sortByText {α : Type} (textOf : α → String) (items : List α) : List α :=
  items.mergeSort fun a b => (compareText (textOf a) (textOf b)).isLE

end SpecTrace
