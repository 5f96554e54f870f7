import SpecTrace.Proofs.Document.Keys
import SpecTrace.Proofs.Json.Proper
import SpecTrace.Proofs.Workspace.Sources

/-! The three ways to a node of a document agree: its pointer, the list of all nodes, and the value
without positions. -/

namespace SpecTrace

namespace Node

/-- In document order a node stands before what is below it, and before whatever is in a later child
of a node above it. -/
inductive Before : Node → Pointer → Pointer → Prop
  | above {node : Node} (segment : String) (rest : Pointer) : Before node [] (segment :: rest)
  | beside {node earlier later : Node} {first second : String} (p q : Pointer)
      (order : [(first, earlier), (second, later)].Sublist node.children) :
      Before node (first :: p) (second :: q)
  | within {node child : Node} {segment : String} {p q : Pointer}
      (member : (segment, child) ∈ node.children) (inside : Before child p q) :
      Before node (segment :: p) (segment :: q)

/-- No node stands before itself. -/
theorem Before.irrefl {node : Node} (distinct : node.Distinct) {p : Pointer} :
    ¬ node.Before p p := by
  -- By induction on the pointer; only the first segments of both sides matter.
  induction p generalizing node with
  | nil =>
    intro before
    cases before
  | cons segment rest ih =>
    intro before
    cases before with
    | beside _ _ order =>
      -- Two children would stand under one segment.
      have twice := (order.map Prod.fst).nodup distinct.keys
      simp at twice
    | within member inside => exact ih (distinct.child member) inside

/-- The descendants in the items are those of each item, under its index. -/
theorem itemDescendants_eq (index : Nat) (items : List Node) :
    itemDescendants index items = (indexed index items).flatMap fun child =>
      child.2.descendants.map fun (p, node) => (child.1 :: p, node) := by
  -- The index grows by one from item to item.
  induction items generalizing index with
  | nil => rfl
  | cons item rest ih => simp [itemDescendants, indexed, ih]

/-- The descendants in the entries are those of each value, under its key. -/
theorem entryDescendants_eq (entries : List (Entry Node)) :
    entryDescendants entries = (keyed entries).flatMap fun child =>
      child.2.descendants.map fun (p, node) => (child.1 :: p, node) := by
  -- The recursion of both sides is on the entries.
  induction entries with
  | nil => rfl
  | cons entry rest ih =>
    rcases entry with ⟨key, keySpan, value⟩
    simp [entryDescendants, keyed, ih]

/-- The descendants are the node itself and those of its children, child by child. -/
theorem descendants_eq (node : Node) :
    node.descendants = ([], node) :: node.children.flatMap fun child =>
      child.2.descendants.map fun (p, inner) => (child.1 :: p, inner) := by
  cases node with
  | scalar value span => rfl
  | sequence items span => rw [descendants, itemDescendants_eq, children]
  | mapping entries span => rw [descendants, entryDescendants_eq, children]

/-- The nodes are listed in document order. -/
theorem descendants_ordered (node : Node) :
    (node.descendants.map Prod.fst).Pairwise node.Before := by
  induction node using children_induction with
  | step node ih =>
    rw [descendants_eq, List.map_cons, List.map_flatMap, List.pairwise_cons]
    constructor
    · -- All pointers but the first have a segment.
      intro p member
      obtain ⟨child, _, inside⟩ := List.mem_flatMap.mp member
      simp only [List.map_map, List.mem_map] at inside
      obtain ⟨_, _, rfl⟩ := inside
      exact .above _ _
    · rw [List.pairwise_flatMap]
      constructor
      · -- Within one child the order is that of the child.
        intro child member
        have order := (ih child member).map (child.1 :: ·) (S := node.Before)
          fun p q before => .within member before
        simpa [Function.comp_def] using order
      · -- Of two children the first one comes first, with all that is in it.
        rw [List.pairwise_iff_forall_sublist]
        intro earlier later order p first q second
        simp only [List.map_map, List.mem_map] at first second
        obtain ⟨_, _, rfl⟩ := first
        obtain ⟨_, _, rfl⟩ := second
        exact .beside _ _ order

/-- No pointer is listed twice. -/
theorem descendants_nodup {node : Node} (distinct : node.Distinct) :
    (node.descendants.map Prod.fst).Nodup := by
  refine node.descendants_ordered.imp ?_
  -- A pointer that is listed twice would stand before itself.
  rintro p q before rfl
  exact Before.irrefl distinct before

/-- A pointer leads to the nodes that are listed with it and to no others. -/
theorem find?_iff_mem_descendants {node : Node} (distinct : node.Distinct) {p : Pointer}
    {inner : Node} : node.find? p = some inner ↔ (p, inner) ∈ node.descendants := by
  refine ⟨mem_descendants_of_find?, ?_⟩
  -- One way is known. For the other, the pointer is followed segment by segment.
  induction p generalizing node with
  | nil =>
    intro listed
    rw [descendants_eq, List.mem_cons] at listed
    rcases listed with same | below
    · cases same
      rfl
    · -- What is listed below the node has a segment.
      simp at below
  | cons segment rest ih =>
    intro listed
    rw [descendants_eq, List.mem_cons] at listed
    rcases listed with same | below
    · cases same
    · obtain ⟨⟨name, child⟩, member, inside⟩ := List.mem_flatMap.mp below
      simp only [List.mem_map, Prod.mk.injEq, List.cons.injEq, Prod.exists] at inside
      obtain ⟨p, node', inside, ⟨rfl, rfl⟩, rfl⟩ := inside
      -- The child that is listed under the segment is the one that is found there.
      rw [find?_cons, distinct.lookup member, Option.bind_some]
      exact ih (distinct.child member) inside

end Node

namespace Json

/-- A pointer leads from a value to another one: keys lead to members, and the decimal digits of an
index lead to items. -/
inductive Leads : Json → Pointer → Json → Prop
  | here (value : Json) : Leads value [] value
  | member {members : List (String × Json)} {key : String} {inner value : Json} {rest : Pointer}
      (stored : lookupMember? members key = some inner) (further : Leads inner rest value) :
      Leads (.object members) (key :: rest) value
  | item {items : List Json} {i : Nat} {inner value : Json} {rest : Pointer}
      (stands : items[i]? = some inner) (further : Leads inner rest value) :
      Leads (.array items) (indexSegment i :: rest) value

/-- A scalar leads to itself only. -/
theorem Leads.scalar {value : Scalar} {p : Pointer} {inner : Json}
    (leads : Leads value.toJson p inner) : p = [] ∧ inner = value.toJson := by
  cases value <;> cases leads <;> exact ⟨rfl, rfl⟩

/-- Without a segment, a value leads to itself only. -/
theorem Leads.here_eq {value inner : Json} (leads : Leads value [] inner) : inner = value := by
  cases leads
  rfl

end Json

namespace Node

/-- An item of a sequence has the decimal digits of its index for a segment, and no other one. -/
theorem child?_sequence_iff {items : List Node} {span : Span} {segment : String} {inner : Node} :
    (sequence items span).child? segment = some inner ↔
      ∃ i, segment = indexSegment i ∧ items[i]? = some inner := by
  simp only [child?, Option.bind_eq_some_iff, canonicalIndex?_eq_some_iff]

/-- A pointer leads through the value without positions to what it leads to in the document. -/
theorem leads_toJson_iff {node : Node} {p : Pointer} {value : Json} :
    node.toJson.Leads p value ↔ ∃ inner, node.find? p = some inner ∧ inner.toJson = value := by
  -- Along the pointer: a step in the value is a step in the document, and the other way round.
  induction p generalizing node with
  | nil =>
    constructor
    · intro leads
      exact ⟨node, rfl, leads.here_eq.symm⟩
    · rintro ⟨inner, found, rfl⟩
      cases found
      exact .here _
  | cons segment rest ih =>
    simp only [find?, Option.bind_eq_some_iff]
    constructor
    · intro leads
      -- The first step goes to the value of a child, and the rest leads on from there.
      cases node with
      | scalar scalar span =>
        have root := (Json.Leads.scalar leads).1
        cases root
      | sequence items span =>
        rw [toJson, itemsToJson_eq_map] at leads
        cases leads with
        | item stands further =>
          rw [List.getElem?_map, Option.map_eq_some_iff] at stands
          obtain ⟨child, known, rfl⟩ := stands
          obtain ⟨inner, found, same⟩ := ih.mp further
          exact ⟨inner, ⟨child, child?_sequence_iff.mpr ⟨_, rfl, known⟩, found⟩, same⟩
      | mapping entries span =>
        rw [toJson, entriesToJson_eq] at leads
        cases leads with
        | member stored further =>
          rw [lookupMember?_map, Option.map_eq_some_iff] at stored
          obtain ⟨child, known, rfl⟩ := stored
          obtain ⟨inner, found, same⟩ := ih.mp further
          exact ⟨inner, ⟨child, (child?_eq _ _).trans known, found⟩, same⟩
    · rintro ⟨inner, ⟨child, known, found⟩, same⟩
      -- A child of the document has its value at the same place.
      have further := ih.mpr ⟨inner, found, same⟩
      cases node with
      | scalar scalar span => cases known
      | sequence items span =>
        obtain ⟨i, rfl, stands⟩ := child?_sequence_iff.mp known
        rw [toJson, itemsToJson_eq_map]
        exact .item (by rw [List.getElem?_map, stands, Option.map_some]) further
      | mapping entries span =>
        rw [child?_eq, children] at known
        rw [toJson, entriesToJson_eq]
        exact .member (by rw [lookupMember?_map, known, Option.map_some]) further

end Node

/-- A document of either format repeats no key. -/
theorem distinct_of_readDocument {format : Format} {text : String} {root : Node}
    (read : readDocument format text = .ok root) : root.Distinct := by
  cases format with
  | json => exact (JsonText.read_pays read).2
  | yaml => exact (Yaml.read_pays read).2

/-- In a document no mapping repeats a key; all nodes are listed once each, in document order and
with different pointers; a pointer leads to a node exactly if both are listed together, so that items
are found under the digits of their indices only; and through the value without positions a pointer
leads to the value of the node that it leads to in the document. -/
theorem addresses_agree (format : Format) {text : String} {root : Node}
    (read : readDocument format text = .ok root) :
    (∀ p entries span, root.find? p = some (.mapping entries span) →
        (entries.map Entry.key).Nodup) ∧
      ((root.descendants.map Prod.fst).Nodup ∧ root.descendants.length = root.count ∧
        (root.descendants.map Prod.fst).Pairwise root.Before) ∧
      (∀ p node, root.find? p = some node ↔ (p, node) ∈ root.descendants) ∧
      (∀ p items span, root.find? p = some (.sequence items span) → ∀ segment node,
        root.find? (p ++ [segment]) = some node ↔
          ∃ i, segment = indexSegment i ∧ items[i]? = some node) ∧
      ∀ p value, root.toJson.Leads p value ↔
        ∃ node, root.find? p = some node ∧ node.toJson = value := by
  have distinct := distinct_of_readDocument read
  refine ⟨fun p entries span found => ?_, ⟨Node.descendants_nodup distinct,
    Node.length_descendants root, root.descendants_ordered⟩,
    fun p node => Node.find?_iff_mem_descendants distinct, fun p items span found segment node => ?_,
    fun p value => Node.leads_toJson_iff⟩
  · -- A mapping below the root repeats no key, as the root repeats none.
    cases distinct.find? found with
    | mapping keys _ => exact keys
  · -- The item is found from the sequence by one more segment.
    have items := @Node.child?_sequence_iff items span segment node
    rw [Node.find?_append, found, Option.bind_some, ← items]
    simp [Node.find?]

/-- The item of a list is found under its index, in the document and in its value, and under no
other spelling of the index. -/
theorem list_item_is_addressed :
    ∃ root, readDocument .yaml "a:\n- 7\nb: x\n" = .ok root ∧
      root.descendants.map Prod.fst = [[], ["a"], ["a", "0"], ["b"]] ∧
      root.toJson.Leads ["a", "0"] (.number (.int 7)) ∧ root.find? ["a", "00"] = none := by
  let root : Node := .mapping [⟨"a", ⟨0, 1⟩, .sequence [.scalar (.number (.int 7)) ⟨5, 6⟩] ⟨3, 6⟩⟩,
    ⟨"b", ⟨7, 8⟩, .scalar (.string "x") ⟨10, 11⟩⟩] ⟨0, 11⟩
  have read : readDocument .yaml "a:\n- 7\nb: x\n" = .ok root := rfl
  -- The value is reached through the document.
  have item : root.find? ["a", "0"] = some (.scalar (.number (.int 7)) ⟨5, 6⟩) := rfl
  exact ⟨root, read, rfl, ((addresses_agree .yaml read).2.2.2.2 _ _).mpr ⟨_, item, rfl⟩, rfl⟩

end SpecTrace
