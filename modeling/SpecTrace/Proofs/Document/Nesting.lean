import SpecTrace.Proofs.Document.Keys
import SpecTrace.Proofs.Json.Proper

/-! The collections that a node of a tree lies in, and which of them a limit of nesting does not
count. -/

namespace SpecTrace.Node

/-- The collections on the way from a node down to one in it, the outermost first. -/
inductive Path : Node → List Node → Node → Prop
  | here {node : Node} : Path node [] node
  | into {node inner : Node} {child : String × Node} {around : List Node}
    (known : child ∈ node.children) (path : Path child.2 around inner) :
    Path node (node :: around) inner

/-- The items of a sequence are its children. -/
theorem indexed_values (index : Nat) (items : List Node) :
    (indexed index items).map Prod.snd = items := by
  induction items generalizing index with
  | nil => rfl
  | cons item rest ih => rw [indexed, List.map_cons, ih]

/-- A node is at most one level deeper than its children. -/
theorem depth_le_of_children {node : Node} {room : Nat}
    (below : ∀ child ∈ node.children, child.2.toJson.depth ≤ room) :
    node.toJson.depth ≤ room + 1 := by
  -- Only collections have children, and a collection is one level deeper than the deepest of them.
  cases node with
  | scalar value span => cases value <;> exact Nat.zero_le _
  | sequence items span =>
    rw [depth_sequence_le, ← indexed_values 0 items, List.forall_mem_map]
    exact below
  | mapping entries span =>
    rw [depth_mapping_le]
    exact fun entry known => below _ (List.mem_map_of_mem known)

/-- A child is less deep than what it is in. -/
theorem depth_child_lt {node : Node} {child : String × Node} (known : child ∈ node.children) :
    child.2.toJson.depth < node.toJson.depth := by
  -- The depth of a collection bounds that of each child by one level less.
  cases node with
  | scalar value span => cases known
  | sequence items span =>
    have below := depth_sequence_le.mp (Nat.le_refl (sequence items span).toJson.depth)
    exact Nat.lt_succ_of_le (below _ (mem_indexed known))
  | mapping entries span =>
    obtain ⟨entry, inside, rfl⟩ := List.mem_map.mp known
    have below := depth_mapping_le.mp (Nat.le_refl (mapping entries span).toJson.depth)
    exact Nat.lt_succ_of_le (below entry inside)

/-- No node lies in more collections than the tree is deep. -/
theorem Path.length_le {root node : Node} {around : List Node} (path : root.Path around node) :
    around.length ≤ root.toJson.depth := by
  -- Each collection on the way is one level less deep than the one around it.
  induction path with
  | here => exact Nat.zero_le _
  | into known path ih => exact Nat.succ_le_of_lt (Nat.lt_of_le_of_lt ih (depth_child_lt known))

/-- In a tree of some depth, a node lies in any smaller number of collections. -/
theorem exists_path_of_lt_depth {root : Node} {levels : Nat} (lt : levels < root.toJson.depth) :
    ∃ around node, root.Path around node ∧ around.length = levels := by
  -- The number of levels is general, as one of them is used up at each child.
  induction root using children_induction generalizing levels with
  | step root ih =>
    cases levels with
    | zero => exact ⟨[], root, .here, rfl⟩
    | succ levels =>
      -- Without a child that is deep enough, the tree would not be.
      have deep : ∃ child ∈ root.children, levels < child.2.toJson.depth := by
        by_contra shallow
        simp only [not_exists, not_and, Nat.not_lt] at shallow
        exact Nat.not_le_of_lt lt (depth_le_of_children shallow)
      obtain ⟨child, known, deep⟩ := deep
      obtain ⟨around, node, path, length⟩ := ih child known deep
      exact ⟨root :: around, node, .into known path, congrArg (· + 1) length⟩

/-! ### Collections that do not count -/

/-- The number of collections around a node that do not begin in front of it, so that the node was
copied into them. -/
def copiedInto (node : Node) (around : List Node) : Nat :=
  around.countP fun outer => decide (node.span.start ≤ outer.span.start)

/-- A pair in brackets: a mapping without braces of its own, which begins with its only key. -/
def isPairIn (text : List Char) (outer : Node) : Node → Bool
  | .mapping [entry] span =>
    (dropBytes outer.span.start text).head? = some '[' && span.start = entry.keySpan.start
  | _ => false

/-- The number of pairs in brackets among collections, each of which lies in the one before. -/
def pairsAmong (text : List Char) : List Node → Nat
  | outer :: inner :: rest =>
    (if isPairIn text outer inner then 1 else 0) + pairsAmong text (inner :: rest)
  | _ => 0

/-- The number of offsets in front of a node. -/
def offsetsBefore (node : Node) (offsets : List Nat) : Nat :=
  offsets.countP fun offset => decide (offset < node.span.start)

variable {outer node : Node} {around : List Node} {offsets : List Nat}

/-- No more offsets than there are stand in front of a node. -/
theorem offsetsBefore_le_length : node.offsetsBefore offsets ≤ offsets.length :=
  List.countP_le_length

/-- An offset behind a node does not stand in front of it. -/
theorem offsetsBefore_cons_of_le {offset : Nat} (le : node.span.start ≤ offset) :
    node.offsetsBefore (offset :: offsets) = node.offsetsBefore offsets :=
  List.countP_cons_of_neg (by simpa using le)

/-- One more offset takes none away. -/
theorem offsetsBefore_le_cons {offset : Nat} :
    node.offsetsBefore offsets ≤ node.offsetsBefore (offset :: offsets) := by
  unfold offsetsBefore
  rw [List.countP_cons]
  exact Nat.le_add_right _ _

/-- Another collection around others was copied into, or it is not. -/
theorem copiedInto_le_cons : copiedInto node around ≤ copiedInto node (outer :: around) := by
  unfold copiedInto
  rw [List.countP_cons]
  exact Nat.le_add_right _ _

/-- A collection around a node begins in front of it, or else the node was copied into it. -/
theorem offsetsBefore_add_copiedInto_cons :
    node.offsetsBefore (outer.span.start :: offsets) + copiedInto node (outer :: around) =
      node.offsetsBefore offsets + copiedInto node around + 1 := by
  unfold offsetsBefore copiedInto
  rw [List.countP_cons, List.countP_cons]
  -- The collection is counted on exactly one of the two sides.
  by_cases before : outer.span.start < node.span.start
  · have notBehind : ¬node.span.start ≤ outer.span.start := Nat.not_le.mpr before
    simp only [before, notBehind, decide_true, decide_false, if_true, Bool.false_eq_true, if_false]
    omega
  · have behind : node.span.start ≤ outer.span.start := Nat.not_lt.mp before
    simp only [before, behind, decide_true, decide_false, if_true, Bool.false_eq_true, if_false]
    omega

/-- Another collection around others takes no pair away. -/
theorem pairsAmong_le_cons (text : List Char) :
    pairsAmong text around ≤ pairsAmong text (outer :: around) := by
  cases around with
  | nil => exact Nat.le_refl _
  | cons inner rest => exact Nat.le_add_left _ _

end SpecTrace.Node
