import SpecTrace.Bundle.Walk
import SpecTrace.Proofs.Members
import SpecTrace.Proofs.Number.Digits

/-! The children of a node under their segments, and how looking up a pointer follows them. -/

namespace SpecTrace

/-- A segment spells an index exactly if it is the segment of that index. -/
theorem canonicalIndex?_eq_some_iff {segment : String} {i : Nat} :
    canonicalIndex? segment = some i ↔ segment = indexSegment i := by
  rw [← String.toList_inj, indexSegment, String.toList_ofList]
  unfold canonicalIndex?
  constructor
  · -- Reading a segment back: it is a lone zero, or digits of which the first is not zero.
    intro spelled
    split at spelled
    · cases spelled
    · rename_i zero
      cases spelled
      rw [zero]
      rfl
    · cases spelled
    · rename_i digits notEmpty notZero notLed
      -- The first digit is positive, so the others are read onto a positive value.
      cases spell : segment.toList with
      | nil => exact absurd spell notEmpty
      | cons c rest =>
        rw [spell] at spelled
        simp only [readDigits?] at spelled
        cases one : digitValue? 10 c with
        | none => simp [one] at spelled
        | some digit =>
          obtain ⟨small, rfl⟩ := digitValue?_ten one
          simp only [one, Option.bind_eq_bind, Option.bind_some, Nat.zero_mul, Nat.zero_add] at spelled
          have positive : 0 < digit := by
            rcases Nat.eq_zero_or_pos digit with rfl | positive
            · exact absurd spell (notLed rest)
            · exact positive
          rw [decimalDigits_of_readDigits? positive spelled, decimalDigits,
            Nat.toDigits_of_lt_base small]
          rfl
  · -- Writing an index: its digits begin with no zero, unless the index is zero.
    intro spell
    rw [spell]
    rcases Nat.eq_zero_or_pos i with rfl | positive
    · rfl
    · have head := decimalDigits_head positive
      split
      · rename_i empty
        exact absurd empty Nat.toDigits_ne_nil
      · rename_i zero
        simp [zero] at head
      · rename_i led
        simp [led] at head
      · exact readDigits?_decimalDigits i

namespace Node

/-- The items of a sequence from an index on, under the segments of their indices. -/
def indexed (index : Nat) : List Node → List (String × Node)
  | [] => []
  | item :: rest => (indexSegment index, item) :: indexed (index + 1) rest

/-- The values of a mapping under their keys. -/
def keyed (entries : List (Entry Node)) : List (String × Node) :=
  entries.map fun entry => (entry.key, entry.value)

/-- The nodes right below a node, each under its segment. -/
def children : Node → List (String × Node)
  | .scalar _ _ => []
  | .sequence items _ => indexed 0 items
  | .mapping entries _ => keyed entries

/-- The text of a mapping's `$ref`, which makes the mapping a reference object. -/
def reference? (node : Node) : Option String :=
  match node.get? referenceKey with
  | some (.scalar (.string raw) _) => some raw
  | _ => none

/-- An item is found under the segment of its index and no other. -/
theorem lookupMember?_indexed (items : List Node) (index i : Nat) :
    lookupMember? (indexed index items) (indexSegment (index + i)) = items[i]? := by
  -- The first index is general, as the remaining items are numbered from the next one on.
  induction items generalizing index i with
  | nil => rfl
  | cons item rest ih =>
    -- The first item has the first index, and the others are found among the rest.
    cases i with
    | zero => simp [indexed, lookupMember?_cons]
    | succ i =>
      have different : indexSegment index ≠ indexSegment (index + (i + 1)) := by
        intro same
        have spelled := canonicalIndex?_eq_some_iff.mpr same.symm
        rw [canonicalIndex?_eq_some_iff.mpr rfl, Option.some.injEq] at spelled
        omega
      rw [indexed, lookupMember?_cons, if_neg different, List.getElem?_cons_succ, ← ih]
      congr 2
      omega

/-- No item stands under a segment that spells no index. -/
theorem lookupMember?_indexed_none {segment : String} (notIndex : canonicalIndex? segment = none)
    (items : List Node) (index : Nat) : lookupMember? (indexed index items) segment = none := by
  induction items generalizing index with
  | nil => rfl
  | cons item rest ih =>
    -- Every item stands under the segment of an index.
    have different : indexSegment index ≠ segment := by
      intro same
      rw [canonicalIndex?_eq_some_iff.mpr same.symm] at notIndex
      cases notIndex
    rw [indexed, lookupMember?_cons, if_neg different, ih]

/-- What is stored under a key of a mapping is found among the values under their keys. -/
theorem get?_mapping (entries : List (Entry Node)) (span : Span) (key : String) :
    (Node.mapping entries span).get? key = lookupMember? (keyed entries) key := by
  simp only [get?]
  -- Both searches stop at the first entry that has the key.
  induction entries with
  | nil => rfl
  | cons entry rest ih =>
    by_cases same : entry.key = key
    · simp [keyed, lookupMember?_cons, same]
    · simpa [keyed, lookupMember?_cons, same] using ih

/-- A segment names the child that stands under it. -/
theorem child?_eq (node : Node) (segment : String) :
    node.child? segment = lookupMember? node.children segment := by
  -- Items are looked up by the index that a segment spells, values by their keys.
  cases node with
  | scalar value span => rfl
  | sequence items span =>
    simp only [child?, children]
    cases spelled : canonicalIndex? segment with
    | none => simp [lookupMember?_indexed_none spelled]
    | some i =>
      rw [canonicalIndex?_eq_some_iff.mp spelled]
      simpa using (lookupMember?_indexed items 0 i).symm
  | mapping entries span => exact get?_mapping entries span segment

/-- A pointer is followed segment by segment. -/
theorem find?_cons (node : Node) (segment : String) (rest : Pointer) :
    node.find? (segment :: rest) = (lookupMember? node.children segment).bind (find? · rest) := by
  rw [find?, child?_eq]

/-- The second part of a pointer is followed from where the first part leads. -/
theorem find?_append (node : Node) (p q : Pointer) :
    node.find? (p ++ q) = (node.find? p).bind (find? · q) := by
  -- By induction on the first part.
  induction p generalizing node with
  | nil => simp [find?]
  | cons segment rest ih =>
    simp only [List.cons_append, find?]
    cases node.child? segment with
    | none => rfl
    | some child => simp [ih]

/-- Without positions, the entries of a mapping are the values under their keys. -/
theorem entriesToJson_eq (entries : List (Entry Node)) :
    entriesToJson entries = (keyed entries).map fun child => (child.1, child.2.toJson) := by
  induction entries with
  | nil => rfl
  | cons entry rest ih => simp [entriesToJson, keyed, ih]

/-- A mapping refers to what the object without positions refers to. -/
theorem reference?_mapping (entries : List (Entry Node)) (span : Span) :
    (Node.mapping entries span).reference? = referenceText? (entriesToJson entries) := by
  unfold reference? referenceText?
  -- Both look up the same key, among nodes or among their values.
  rw [get?_mapping, entriesToJson_eq, lookupMember?_map]
  cases lookupMember? (keyed entries) referenceKey with
  | none => rfl
  | some node =>
    -- Only a text without positions comes from a text.
    cases node with
    | scalar value span => cases value <;> rfl
    | sequence items span => rfl
    | mapping entries span => rfl

mutual

/-- What holds of a node as soon as it holds of its children holds of every node. -/
theorem children_induction {P : Node → Prop}
    (step : ∀ node : Node, (∀ child ∈ node.children, P child.2) → P node) : ∀ node, P node
  | .scalar value span => step (.scalar value span) (by simp [children])
  | .sequence items span => step (.sequence items span) (indexed_induction step items 0)
  | .mapping entries span => step (.mapping entries span) (keyed_induction step entries)

/-- What children pass on to nodes holds of the items of a sequence. -/
theorem indexed_induction {P : Node → Prop}
    (step : ∀ node : Node, (∀ child ∈ node.children, P child.2) → P node) :
    ∀ (items : List Node) (index : Nat), ∀ child ∈ indexed index items, P child.2
  | [], _ => by simp [indexed]
  | item :: rest, index => by
    simp only [indexed, List.forall_mem_cons]
    exact ⟨children_induction step item, indexed_induction step rest (index + 1)⟩

/-- What children pass on to nodes holds of the values of a mapping. -/
theorem keyed_induction {P : Node → Prop}
    (step : ∀ node : Node, (∀ child ∈ node.children, P child.2) → P node) :
    ∀ entries : List (Entry Node), ∀ child ∈ keyed entries, P child.2
  | [] => by simp [keyed]
  | ⟨_, _, value⟩ :: rest => by
    simp only [keyed, List.map_cons, List.forall_mem_cons]
    exact ⟨children_induction step value, keyed_induction step rest⟩

end

/-- Only mappings are reference objects. -/
theorem mapping_of_reference? {node : Node} {raw : String} (refers : node.reference? = some raw) :
    ∃ entries span, node = .mapping entries span := by
  cases node with
  | scalar value span => simp [reference?, get?] at refers
  | sequence items span => simp [reference?, get?] at refers
  | mapping entries span => exact ⟨entries, span, rfl⟩

end Node

end SpecTrace
