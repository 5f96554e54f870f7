import SpecTrace.Proofs.Document.Reading
import SpecTrace.Proofs.Members
import SpecTrace.Proofs.Yaml.Scalars

/-! What reading YAML text keeps to: a tree has no more nodes than its text has characters and its
aliases copied, no mapping in it repeats a key, and aliases copy no more than their budget. -/

namespace SpecTrace.Yaml

/-- No anchored node repeats a key. -/
def State.Anchored (s : State) : Prop :=
  ∀ anchor ∈ s.anchors, anchor.2.Distinct

/-- Anchors that stay the same stay free of repeated keys. -/
theorem State.Anchored.of_eq {s t : State} (anchored : s.Anchored) (same : t.anchors = s.anchors) :
    t.Anchored := by
  unfold State.Anchored
  rw [same]
  exact anchored

/-- Between two states, something of a shape was read that costs a number of nodes; `free` nodes
need not be paid for by characters. -/
structure Spends (s : State) (free cost : Nat) (shape : Prop) (after : State) : Prop where
  size : cost + after.cursor.left + s.copied ≤ s.cursor.left + free + after.copied
  budget : s.copied ≤ maxAliasNodes → after.copied ≤ maxAliasNodes
  shape : s.Anchored → shape
  anchored : s.Anchored → after.Anchored

/-- Every node that a reader answers costs at most one node more than characters. -/
def Pays (node : State → Reading (Node × State)) : Prop :=
  ∀ s child after, node s = .ok (child, after) → Spends s 1 child.count child.Distinct after

/-- What is read behind skipped characters is read behind them, with as many nodes free. -/
theorem Spends.moved {s after : State} {c : Cursor} {free extra cost : Nat} {shape : Prop}
    (spends : Spends (s.moveTo c) free cost shape after)
    (further : c.left + free ≤ s.cursor.left + extra) : Spends s extra cost shape after := by
  have size := spends.size
  refine ⟨?_, spends.budget, spends.shape, spends.anchored⟩
  -- Moving the cursor changes nothing else of the state.
  change cost + after.cursor.left + s.copied ≤ c.left + free + after.copied at size
  omega

/-- A node without children is paid for by the one that is free. -/
theorem spends_scalar {s : State} {c : Cursor} (value : Scalar) (span : Span)
    (moved : c.left ≤ s.cursor.left) :
    Spends s 1 (Node.scalar value span).count (Node.scalar value span).Distinct (s.moveTo c) := by
  refine ⟨?_, fun bounded => bounded, fun _ => .scalar, fun anchored => anchored⟩
  change 1 + c.left + s.copied ≤ s.cursor.left + 1 + s.copied
  omega

/-- An empty node is paid for by the one that is free. -/
theorem spends_empty (s : State) (offset : Nat) :
    Spends s 1 (Node.empty offset).count (Node.empty offset).Distinct s :=
  spends_scalar .null _ (Nat.le_refl _)

/-- A copied node costs what it adds to the copies, and the budget is watched. -/
theorem readAlias_pays (inFlow : Bool) : Pays (readAlias inFlow) := by
  intro s child after read
  unfold readAlias at read
  dsimp only at read
  split at read
  · -- The anchor is unknown.
    simp [State.fail] at read
  · rename_i node found
    split at read
    · simp [State.fail] at read
    · rename_i within
      cases read
      -- The name is passed behind its mark.
      have name := Cursor.left_advance_le
        (s.cursor.next.rest.takeWhile (isNameChar inFlow)).length s.cursor.next
      have mark := Cursor.left_next_le s.cursor
      -- The copies grow by exactly the node that is answered.
      refine ⟨?_, fun _ => by simpa using within, fun anchored => ?_, fun anchored => anchored⟩
      · dsimp only
        omega
      · exact anchored _ (lookupMember?_mem found)

/-- A tag changes neither the size of a node nor its keys. -/
theorem applyTag_shape {document : List Char} {tag : Tag} {offset : Nat} {node tagged : Node}
    (applied : applyTag document tag offset node = .ok tagged) :
    tagged.count = node.count ∧ (node.Distinct → tagged.Distinct) := by
  unfold applyTag at applied
  split at applied
  · split at applied
    · cases applied
      exact ⟨rfl, id⟩
    · -- A scalar stays a scalar, whatever value the tag gives it.
      dsimp only at applied
      split at applied
      · cases applied
        exact ⟨rfl, fun _ => .scalar⟩
      · cases applied
  · split at applied
    · cases applied
      exact ⟨rfl, id⟩
    · cases applied

/-- Recording an anchor for a node costs nothing. -/
theorem Spends.record {s read : State} {node tagged : Node}
    (spends : Spends s 1 node.count node.Distinct read) (size : tagged.count = node.count)
    (distinct : node.Distinct → tagged.Distinct) (name : String) :
    Spends s 1 tagged.count tagged.Distinct
      { read with anchors := (name, tagged) :: read.anchors } := by
  refine ⟨by rw [size]; exact spends.size, spends.budget,
    fun anchored => distinct (spends.shape anchored), fun anchored => ?_⟩
  exact List.forall_mem_cons.mpr ⟨distinct (spends.shape anchored), spends.anchored anchored⟩

/-- Tagging a node costs nothing. -/
theorem Spends.tag {s read : State} {node tagged : Node}
    (spends : Spends s 1 node.count node.Distinct read) (size : tagged.count = node.count)
    (distinct : node.Distinct → tagged.Distinct) :
    Spends s 1 tagged.count tagged.Distinct read :=
  ⟨by rw [size]; exact spends.size, spends.budget,
    fun anchored => distinct (spends.shape anchored), spends.anchored⟩

/-- A node is finished at no further cost, and is recorded in good shape. -/
theorem finishNode_pays {document : List Char} {p : Properties} {s read after : State}
    {node finished : Node} (spends : Spends s 1 node.count node.Distinct read)
    (done : finishNode document p node read = .ok (finished, after)) :
    Spends s 1 finished.count finished.Distinct after := by
  rcases p with ⟨tag, anchor, crossed⟩
  -- A tag is applied first, and what it makes of the node is recorded.
  cases tag with
  | none =>
    -- Without an anchor the state stays as it was.
    cases anchor with
    | none =>
      cases done
      exact spends
    | some name =>
      cases done
      exact spends.record rfl id name
  | some tag =>
    rcases tag with ⟨tag, offset⟩
    cases anchor with
    | none =>
      obtain ⟨tagged, applied, done⟩ := bind_eq_ok.mp done
      obtain ⟨size, distinct⟩ := applyTag_shape applied
      cases done
      exact spends.tag size distinct
    | some name =>
      obtain ⟨tagged, applied, done⟩ := bind_eq_ok.mp done
      obtain ⟨size, distinct⟩ := applyTag_shape applied
      cases done
      exact spends.record size distinct name

/-! ### Flow collections -/

/-- Every node is one or more. -/
theorem count_pos (node : Node) : 1 ≤ node.count := by
  cases node <;> simp [Node.count]

/-- A value that may be left out is paid for. -/
theorem readFlowValue_pays {node : State → Reading (Node × State)} (pays : Pays node) :
    Pays (readFlowValue node) := by
  intro s child after read
  unfold readFlowValue at read
  split at read
  · -- Nothing stands there, so the value is empty.
    cases read
    exact spends_empty s _
  · split at read
    · cases read
      exact spends_empty s _
    · exact pays _ _ _ read

/-- A colon with a value behind it leaves as much as the value alone, and one more. -/
theorem readFlowValue_colon {node : State → Reading (Node × State)} (pays : Pays node)
    {s after : State} {child : Node} (colon : s.cursor.peek = some ':')
    (read : readFlowValue node s.next.skipLayout = .ok (child, after)) :
    Spends s 0 child.count child.Distinct after := by
  have spends : Spends (s.moveTo s.cursor.next.skipLayout.1) 1 child.count child.Distinct after :=
    readFlowValue_pays pays _ _ _ read
  have passed := Cursor.left_next_of_peek colon
  have layout := Cursor.left_skipLayout_le s.cursor.next
  -- The colon pays for the node that is free.
  have all : s.cursor.next.skipLayout.1.left + 1 ≤ s.cursor.left + 0 := by omega
  exact spends.moved all

/-- A pair in place of an item is paid for by its colon. -/
theorem readPair_pays {document : List Char} {node : State → Reading (Node × State)}
    (pays : Pays node) {key pair : Node} {s after : State} (colon : s.cursor.peek = some ':')
    (read : readPair document node key s = .ok (pair, after)) :
    Spends s 1 pair.count pair.Distinct after := by
  unfold readPair at read
  split at read
  · obtain ⟨⟨child, behind⟩, value, read⟩ := bind_eq_ok.mp read
    have spends := readFlowValue_colon pays colon value
    cases read
    refine ⟨?_, spends.budget, fun anchored => ?_, spends.anchored⟩
    · -- The pair is one node beside its value.
      have size := spends.size
      simp only [Node.count, Node.countEntries]
      omega
    · exact (FreshEntries.single List.not_mem_nil (spends.shape anchored)).distinct _
  · simp [State.fail] at read

/-- Something read behind a node adds its cost to that of the node, whose free node is paid for by
a character between them. -/
theorem Spends.append {s read behind after : State} {cost others : Nat} {shape more : Prop}
    (first : Spends s 1 cost shape read) (rest : Spends behind 0 others more after)
    (paid : behind.cursor.left + 1 ≤ read.cursor.left) (same : behind.anchors = read.anchors)
    (copied : behind.copied = read.copied) :
    Spends s 0 (cost + others) (shape ∧ more) after := by
  -- What lies between changes the cursor alone.
  have kept : read.Anchored → behind.Anchored := fun anchored => anchored.of_eq same
  have one := first.size
  have two := rest.size
  refine ⟨by omega, fun bounded => ?_, fun anchored => ?_, fun anchored => ?_⟩
  · -- The budget and the anchors are handed on from one step to the next.
    exact rest.budget (copied ▸ first.budget bounded)
  · exact ⟨first.shape anchored, rest.shape (kept (first.anchored anchored))⟩
  · exact rest.anchored (kept (first.anchored anchored))

/-- Nothing is read at no cost. -/
theorem spends_nothing {s after : State} (further : after.cursor.left ≤ s.cursor.left)
    (same : after.anchors = s.anchors) (copied : after.copied = s.copied) {shape : Prop}
    (holds : shape) : Spends s 0 0 shape after := by
  exact ⟨by omega, fun bounded => copied ▸ bounded, fun _ => holds,
    fun anchored => anchored.of_eq same⟩

/-- The shape that was read may be told in another way. -/
theorem Spends.imp {s after : State} {free cost : Nat} {shape other : Prop}
    (spends : Spends s free cost shape after) (holds : shape → other) :
    Spends s free cost other after :=
  ⟨spends.size, spends.budget, fun anchored => holds (spends.shape anchored), spends.anchored⟩

/-- Items of which each is free of repeated keys. -/
def AllDistinct (items : List Node) : Prop :=
  ∀ item ∈ items, item.Distinct

/-- A pair that begins with a node that was read takes its place. -/
theorem Spends.pair {document : List Char} {node : State → Reading (Node × State)}
    (pays : Pays node) {s read after : State} {first item : Node}
    (spends : Spends s 1 first.count first.Distinct read)
    (colon : read.skipLayout.cursor.peek = some ':')
    (paired : readPair document node first read.skipLayout = .ok (item, after)) :
    Spends s 1 item.count item.Distinct after := by
  have pair := readPair_pays pays colon paired
  have layout := Cursor.left_skipLayout_le read.cursor
  have size := spends.size
  have more := pair.size
  -- The key was read as a node of its own, which makes way for the pair.
  have key := count_pos first
  change item.count + after.cursor.left + read.copied ≤
    read.cursor.skipLayout.1.left + 1 + after.copied at more
  -- The cost of the pair replaces that of the key, which is at least as much as one node.
  exact ⟨by omega, fun bounded => pair.budget (spends.budget bounded),
    fun anchored => pair.shape (spends.anchored anchored),
    fun anchored => pair.anchored (spends.anchored anchored)⟩

/-- Behind a part of a flow collection there is a comma with more parts, or the mark that closes the
collection. -/
theorem readFlowRest_cases {α : Type} {closing : Char} {more : State → Reading (List α × State)}
    {part : α} {parts : List α} {s after : State}
    (read : readFlowRest closing more part s = .ok (parts, after)) :
    (∃ rest, s.skipLayout.cursor.peek = some ',' ∧ more s.skipLayout.next = .ok (rest, after) ∧
      parts = part :: rest) ∨
      s.skipLayout.cursor.peek = some closing ∧ parts = [part] ∧ after = s.skipLayout.next := by
  unfold readFlowRest at read
  dsimp only at read
  split at read
  · rename_i comma
    obtain ⟨⟨rest, ended⟩, others, read⟩ := bind_eq_ok.mp read
    cases read
    exact Or.inl ⟨rest, comma, others, rfl⟩
  · split at read
    · rename_i closed
      cases read
      exact Or.inr ⟨closed, rfl, rfl⟩
    · -- Neither of the two follows.
      simp [State.fail] at read

/-- An item and those behind it are paid for, the free node of the item by the mark between them. -/
theorem Spends.item {more : State → Reading (List Node × State)}
    (others : ∀ {s items after}, more s = .ok (items, after) →
      Spends s 0 (Node.countItems items) (AllDistinct items) after)
    {s last after : State} {item : Node} {items : List Node}
    (spends : Spends s 1 item.count item.Distinct last)
    (read : readFlowRest ']' more item last = .ok (items, after)) :
    Spends s 0 (Node.countItems items) (AllDistinct items) after := by
  -- Behind the item stands a comma with others or the closing mark, and either one pays.
  have space := Cursor.left_skipLayout_le last.cursor
  rcases readFlowRest_cases read with ⟨rest, comma, behind, rfl⟩ | ⟨bracket, rfl, rfl⟩
  · have paid : last.skipLayout.next.cursor.left + 1 ≤ last.cursor.left :=
      Nat.le_trans (Nat.le_of_eq (Cursor.left_next_of_peek comma)) space
    have all := spends.append (others behind) paid rfl rfl
    exact all.imp List.forall_mem_cons.mpr
  · have paid : last.skipLayout.next.cursor.left + 1 ≤ last.cursor.left :=
      Nat.le_trans (Nat.le_of_eq (Cursor.left_next_of_peek bracket)) space
    have all := spends.append (spends_nothing (Nat.le_refl _) rfl rfl trivial) paid rfl rfl
    exact all.imp fun both => List.forall_mem_singleton.mpr both.1

/-- The items of a flow sequence are paid for by what separates and closes them. -/
theorem readFlowItems_pays {document : List Char} {node : State → Reading (Node × State)}
    (pays : Pays node) {began bound : Nat} {s after : State} {items : List Node}
    (read : readFlowItems document node began bound s = .ok (items, after)) :
    Spends s 0 (Node.countItems items) (AllDistinct items) after := by
  -- By induction on the items that are looked for.
  induction bound generalizing s items after with
  | zero => cases read
  | succ bound ih =>
    have layout := Cursor.left_skipLayout_le s.cursor
    unfold readFlowItems at read
    dsimp only at read
    split at read
    · cases read
    · cases read
      -- The bracket closes an empty rest.
      have further : s.skipLayout.next.cursor.left ≤ s.cursor.left :=
        Nat.le_trans (Cursor.left_next_le _) layout
      exact spends_nothing further rfl rfl (List.forall_mem_nil _)
    · obtain ⟨⟨first, behind⟩, answered, read⟩ := bind_eq_ok.mp read
      have spends : Spends s 1 first.count first.Distinct behind :=
        (pays _ _ _ answered).moved (s := s) (Nat.add_le_add_right layout 1)
      split at read
      · -- A colon behind the item makes a pair of it.
        rename_i colon
        obtain ⟨⟨pair, last⟩, paired, read⟩ := bind_eq_ok.mp read
        exact (spends.pair pays colon paired).item ih read
      · have size := spends.size
        have space := Cursor.left_skipLayout_le behind.cursor
        have spaced : Spends s 1 first.count first.Distinct behind.skipLayout := by
          refine ⟨?_, spends.budget, spends.shape, spends.anchored⟩
          change first.count + behind.cursor.skipLayout.1.left + s.copied ≤
            s.cursor.left + 1 + behind.copied
          omega
        exact spaced.item ih read

/-- Entries behind a key are paid for by the key. -/
theorem Spends.entry {s read behind after : State} {child : Node} {others : List (Entry Node)}
    {key : String} (keySpan : Span) {seen : List String}
    (first : Spends s 0 child.count child.Distinct read) (new : key ∉ seen)
    (rest : Spends behind 0 (Node.countEntries others) (FreshEntries (key :: seen) others) after)
    (further : behind.cursor.left ≤ read.cursor.left) (same : behind.anchors = read.anchors)
    (copied : behind.copied = read.copied) :
    Spends s 0 (Node.countEntries (⟨key, keySpan, child⟩ :: others))
      (FreshEntries seen (⟨key, keySpan, child⟩ :: others)) after := by
  -- The key pays for the entry, the value pays for itself, and what is anchored stays so.
  have one := first.size
  have two := rest.size
  have kept : read.Anchored → behind.Anchored := fun anchored => anchored.of_eq same
  refine ⟨?_, fun bounded => ?_, fun anchored => ?_, fun anchored => ?_⟩
  · simp only [Node.countEntries]
    omega
  · exact rest.budget (copied ▸ first.budget bounded)
  · exact .cons new (first.shape anchored) (rest.shape (kept (first.anchored anchored)))
  · exact rest.anchored (kept (first.anchored anchored))

/-- An entry and those behind it are paid for, if its value is. -/
theorem Spends.entries {more : State → Reading (List (Entry Node) × State)} {key : String}
    {seen : List String}
    (others : ∀ {s entries after}, more s = .ok (entries, after) →
      Spends s 0 (Node.countEntries entries) (FreshEntries (key :: seen) entries) after)
    {s last after : State} {child : Node} {entries : List (Entry Node)} (keySpan : Span)
    (new : key ∉ seen) (spends : Spends s 0 child.count child.Distinct last)
    (read : readFlowRest '\x7d' more ⟨key, keySpan, child⟩ last = .ok (entries, after)) :
    Spends s 0 (Node.countEntries entries) (FreshEntries seen entries) after := by
  -- What separates entries need not pay for anything.
  have further : last.skipLayout.next.cursor.left ≤ last.cursor.left :=
    Nat.le_trans (Cursor.left_next_le _) (Cursor.left_skipLayout_le last.cursor)
  rcases readFlowRest_cases read with ⟨rest, _, behind, rfl⟩ | ⟨_, rfl, rfl⟩
  · exact spends.entry keySpan new (others behind) further rfl rfl
  · have nothing : Spends last.skipLayout.next 0 (Node.countEntries [])
        (FreshEntries (key :: seen) []) last.skipLayout.next :=
      spends_nothing (Nat.le_refl _) rfl rfl (.nil _)
    exact spends.entry keySpan new nothing further rfl rfl

/-- The entries of a flow mapping are paid for by their keys, and repeat none. -/
theorem readFlowEntries_pays {document : List Char} {node : State → Reading (Node × State)}
    (pays : Pays node) {began bound : Nat} {seen : List String} {s after : State}
    {entries : List (Entry Node)}
    (read : readFlowEntries document node began bound seen s = .ok (entries, after)) :
    Spends s 0 (Node.countEntries entries) (FreshEntries seen entries) after := by
  -- By induction on the entries that are looked for, with the keys that were seen.
  induction bound generalizing seen s entries after with
  | zero => cases read
  | succ bound ih =>
    have layout := Cursor.left_skipLayout_le s.cursor
    unfold readFlowEntries at read
    dsimp only at read
    split at read
    · cases read
    · cases read
      -- The brace closes an empty rest.
      have further : s.skipLayout.next.cursor.left ≤ s.cursor.left :=
        Nat.le_trans (Cursor.left_next_le _) layout
      exact spends_nothing further rfl rfl (.nil _)
    · simp [State.fail] at read
    · simp [State.fail] at read
    · simp [State.fail] at read
    · simp [State.fail] at read
    · simp [State.fail] at read
    · obtain ⟨⟨⟨value, keySpan⟩, keyEnd⟩, named, read⟩ := bind_eq_ok.mp read
      obtain ⟨_, accepted, read⟩ := bind_eq_ok.mp read
      have new := refuseRepeated_ok accepted
      -- The key takes a character, which pays for an empty value too.
      have key := readFlowScalar_left named
      have space := Cursor.left_skipLayout_le keyEnd
      change keyEnd.left < s.cursor.skipLayout.1.left at key
      split at read
      · rename_i colon
        obtain ⟨⟨child, last⟩, answered, read⟩ := bind_eq_ok.mp read
        have spends : Spends (s.moveTo keyEnd.skipLayout.1) 0 child.count child.Distinct last :=
          readFlowValue_colon pays colon answered
        have whole : Spends s 0 child.count child.Distinct last := spends.moved (by omega)
        exact whole.entries ih keySpan new read
      · -- A key without a colon has an empty value.
        refine Spends.entries ih keySpan new ?_ read
        refine ⟨?_, fun bounded => bounded, fun _ => .scalar, fun anchored => anchored⟩
        change 1 + keyEnd.skipLayout.1.left + s.copied ≤ s.cursor.left + 0 + s.copied
        omega

/-- The content of a flow node is paid for if the nodes inside are. -/
theorem readFlowContent_pays {document : List Char} {node : State → Reading (Node × State)}
    (pays : Pays node) (p : Properties) : Pays (readFlowContent document node p) := by
  intro s child after read
  unfold readFlowContent at read
  dsimp only at read
  split at read
  · rename_i opened
    obtain ⟨⟨items, behind⟩, inside, read⟩ := bind_eq_ok.mp read
    -- The opening bracket pays for the sequence itself.
    have bracket := Cursor.left_next_of_peek opened
    have spends : Spends s 0 (Node.countItems items) (AllDistinct items) behind :=
      (readFlowItems_pays pays inside).moved (s := s) (by omega)
    have size := spends.size
    cases read
    refine ⟨?_, spends.budget, fun anchored => .sequence (spends.shape anchored), spends.anchored⟩
    simp only [Node.count]
    omega
  · rename_i opened
    obtain ⟨⟨entries, behind⟩, inside, read⟩ := bind_eq_ok.mp read
    -- The opening brace pays for the mapping itself.
    have brace := Cursor.left_next_of_peek opened
    have spends : Spends s 0 (Node.countEntries entries) (FreshEntries [] entries) behind :=
      (readFlowEntries_pays pays inside).moved (s := s) (by omega)
    have size := spends.size
    cases read
    refine ⟨?_, spends.budget, fun anchored => (spends.shape anchored).distinct _, spends.anchored⟩
    simp only [Node.count]
    omega
  · split at read
    · cases read
      exact spends_empty s _
    · -- A scalar takes a character, which is more than the free node needs.
      obtain ⟨⟨⟨value, span⟩, behind⟩, scalar, read⟩ := bind_eq_ok.mp read
      cases read
      exact spends_scalar value span (Nat.le_of_lt (readFlowScalar_left scalar))

/-- Every flow node is paid for, whatever room there is for nesting. -/
theorem readFlowNode_pays (document : List Char) (room : Nat) :
    Pays (readFlowNode document room) := by
  -- The room shrinks by one level of nesting.
  induction room with
  | zero =>
    intro s child after read
    simp [readFlowNode, State.fail] at read
  | succ room ih =>
    intro s child after read
    unfold readFlowNode at read
    obtain ⟨⟨p, c⟩, properties, read⟩ := bind_eq_ok.mp read
    have passed := readProperties_left properties
    have further : c.left + 1 ≤ s.cursor.left + 1 := by omega
    dsimp only at read
    split at read
    · -- An alias has no properties of its own.
      split at read
      · exact (readAlias_pays true _ _ _ read).moved (s := s) further
      · simp [State.fail] at read
    · obtain ⟨⟨content, behind⟩, inside, read⟩ := bind_eq_ok.mp read
      have spends := (readFlowContent_pays ih p _ _ _ inside).moved (s := s) further
      exact finishNode_pays spends read

/-! ### Block collections -/

/-- The state past layout has no more characters left. -/
theorem skipLayout_left (s : State) : s.skipLayout.cursor.left ≤ s.cursor.left :=
  Cursor.left_skipLayout_le s.cursor

/-- The entries of a block mapping are paid for by their keys, and repeat none. -/
theorem readBlockEntries_pays {document : List Char} {node : State → Reading (Node × State)}
    (pays : Pays node) {column bound : Nat} {seen : List String} {s after : State}
    {entries : List (Entry Node)} {stop : Nat}
    (read : readBlockEntries document node column bound seen s = .ok ((entries, stop), after)) :
    Spends s 0 (Node.countEntries entries) (FreshEntries seen entries) after := by
  -- By induction on the entries; the value of each is free, since its key takes characters.
  induction bound generalizing seen s entries stop after with
  | zero =>
    cases read
    exact spends_nothing (Nat.le_refl _) rfl rfl (.nil _)
  | succ bound ih =>
    unfold readBlockEntries at read
    obtain ⟨⟨⟨key, keySpan⟩, c⟩, named, read⟩ := bind_eq_ok.mp read
    obtain ⟨_, accepted, read⟩ := bind_eq_ok.mp read
    obtain ⟨⟨child, behind⟩, answered, read⟩ := bind_eq_ok.mp read
    -- The key is new, and it is passed before the value is read.
    have new := refuseRepeated_ok accepted
    have passed := readKey_left named
    have spends : Spends s 0 child.count child.Distinct behind :=
      (pays _ _ _ answered).moved (s := s) passed
    have further := skipLayout_left behind
    dsimp only at read
    split at read
    · -- The mapping ends behind this entry.
      have nothing : Spends behind.skipLayout 0 (Node.countEntries [])
          (FreshEntries (key :: seen) []) behind.skipLayout :=
        spends_nothing (Nat.le_refl _) rfl rfl (.nil _)
      cases read
      exact spends.entry keySpan new nothing further rfl rfl
    · split at read
      · simp [State.fail] at read
      · split at read
        · simp [State.fail] at read
        · obtain ⟨⟨⟨rest, restStop⟩, last⟩, others, read⟩ := bind_eq_ok.mp read
          have all := spends.entry keySpan new (ih others) further rfl rfl
          cases read
          exact all

/-- The items of a block sequence are paid for by their dashes. -/
theorem readBlockItems_pays {node : State → Reading (Node × State)} (pays : Pays node)
    {column bound : Nat} {s after : State} {items : List Node} {stop : Nat}
    (dash : s.cursor.atIndicator '-' = true)
    (read : readBlockItems node column bound s = .ok ((items, stop), after)) :
    Spends s 0 (Node.countItems items) (AllDistinct items) after := by
  -- By induction on the items, each of which begins with a dash.
  induction bound generalizing s items stop after with
  | zero =>
    cases read
    exact spends_nothing (Nat.le_refl _) rfl rfl (List.forall_mem_nil _)
  | succ bound ih =>
    unfold readBlockItems at read
    obtain ⟨⟨item, behind⟩, answered, read⟩ := bind_eq_ok.mp read
    have passed := left_next_of_indicator dash
    have spends : Spends s 0 item.count item.Distinct behind :=
      (pays _ _ _ answered).moved (s := s) (Nat.le_of_eq passed)
    have further := skipLayout_left behind
    -- The sequence may end behind this item.
    have single : Spends s 0 (Node.countItems [item]) (AllDistinct [item]) behind.skipLayout := by
      refine ⟨?_, spends.budget, fun anchored => ?_, spends.anchored⟩
      · have size := spends.size
        change item.count + 0 + behind.skipLayout.cursor.left + s.copied ≤
          s.cursor.left + 0 + behind.copied
        omega
      · exact List.forall_mem_singleton.mpr (spends.shape anchored)
    dsimp only at read
    split at read
    · cases read
      exact single
    · split at read
      · simp [State.fail] at read
      · split at read
        · cases read
          exact single
        · rename_i within
          obtain ⟨⟨⟨rest, restStop⟩, last⟩, others, read⟩ := bind_eq_ok.mp read
          -- More items follow a dash only.
          have more : behind.skipLayout.cursor.atIndicator '-' = true := by
            simp only [Bool.or_eq_true, decide_eq_true_eq, Bool.not_eq_true', not_or,
              Bool.not_eq_false] at within
            exact within.2
          have rests := ih more others
          have size := spends.size
          have sizes := rests.size
          change Node.countItems rest + last.cursor.left + behind.copied ≤
            behind.skipLayout.cursor.left + 0 + last.copied at sizes
          cases read
          refine ⟨?_, fun bounded => rests.budget (spends.budget bounded), fun anchored => ?_,
            fun anchored => rests.anchored (spends.anchored anchored)⟩
          · simp only [Node.countItems]
            omega
          · exact List.forall_mem_cons.mpr
              ⟨spends.shape anchored, rests.shape (spends.anchored anchored)⟩

/-- A block sequence is paid for if its items are. -/
theorem readBlockSequence_pays {document : List Char} {children : Children}
    (pays : ∀ margin place, Pays (children.block margin place)) {s after : State} {node : Node}
    (dash : s.cursor.atIndicator '-' = true)
    (read : readBlockSequence document children s = .ok (node, after)) :
    Spends s 1 node.count node.Distinct after := by
  -- The first dash pays for the sequence, and what its items spend is what it spends.
  unfold readBlockSequence at read
  obtain ⟨⟨⟨items, stop⟩, behind⟩, inside, read⟩ := bind_eq_ok.mp read
  have spends := readBlockItems_pays (pays _ _) dash inside
  have size := spends.size
  cases read
  refine ⟨?_, spends.budget, fun anchored => .sequence (spends.shape anchored), spends.anchored⟩
  simp only [Node.count]
  omega

/-- A block mapping is paid for if its values are. -/
theorem readBlockMapping_pays {document : List Char} {children : Children}
    (pays : ∀ margin place, Pays (children.block margin place)) :
    Pays (readBlockMapping document children) := by
  -- The first key pays for the mapping, and what its entries spend is what it spends.
  intro s node after read
  unfold readBlockMapping at read
  obtain ⟨⟨⟨entries, stop⟩, behind⟩, inside, read⟩ := bind_eq_ok.mp read
  have spends := readBlockEntries_pays (pays _ _) inside
  have size := spends.size
  cases read
  refine ⟨?_, spends.budget, fun anchored => (spends.shape anchored).distinct _, spends.anchored⟩
  simp only [Node.count]
  omega

/-- A mapping or a scalar without a mark of its own is paid for. -/
theorem readMappingOrScalar_pays {document : List Char} {children : Children}
    (pays : ∀ margin place, Pays (children.block margin place)) (margin : Nat) (sameLine : Bool)
    (p : Properties) : Pays (readMappingOrScalar document children margin sameLine p) := by
  intro s node after read
  unfold readMappingOrScalar at read
  obtain ⟨key, _, read⟩ := bind_eq_ok.mp read
  split at read
  · split at read
    · simp [State.fail] at read
    · split at read
      · simp [State.fail] at read
      · exact readBlockMapping_pays pays _ _ _ read
  · split at read
    · -- A quoted scalar is passed with its quotes, a plain one to its end.
      obtain ⟨⟨⟨text, span⟩, behind⟩, string, read⟩ := bind_eq_ok.mp read
      obtain ⟨_, _, read⟩ := bind_eq_ok.mp read
      cases read
      exact spends_scalar _ span
        (Nat.le_trans (readQuoted_left string) (Cursor.left_next_le s.cursor))
    · obtain ⟨⟨plain, behind⟩, scalar, read⟩ := bind_eq_ok.mp read
      obtain ⟨passed, value, span, rfl⟩ := readPlain_scalar scalar
      cases read
      exact spends_scalar value span passed

/-- A node with nothing but the end of its line behind it is paid for if the node is. -/
theorem pays_line_end {node : State → Reading (Node × State)} (pays : Pays node) :
    Pays (fun s => do
      let (child, s) ← node s
      expectLineEnd s.cursor
      .ok (child, s)) := by
  -- The line end is only looked at, so the node is the one that was read.
  intro s child after read
  obtain ⟨⟨answer, behind⟩, answered, read⟩ := bind_eq_ok.mp read
  obtain ⟨_, _, read⟩ := bind_eq_ok.mp read
  cases read
  exact pays _ _ _ answered

/-- A block scalar is paid for. -/
theorem readBlockScalar_pays (bound margin : Nat) :
    Pays (fun s => do
      let (node, after) ← readBlockScalar bound margin s.cursor
      .ok (node, s.moveTo after)) := by
  -- A block scalar is one node, and its indicator has been passed.
  intro s child after read
  obtain ⟨⟨node, behind⟩, scalar, read⟩ := bind_eq_ok.mp read
  obtain ⟨passed, value, span, rfl⟩ := readBlockScalar_scalar scalar
  cases read
  exact spends_scalar value span passed

/-- The content of a block node is paid for if the nodes inside are. -/
theorem readBlockContent_pays {document : List Char} (children : Children)
    (blocks : ∀ margin place, Pays (children.block margin place)) (flows : Pays children.flow)
    (margin : Nat) (place : Place) (crossed : Bool) (p : Properties) (emptyAt : Nat) :
    Pays (readBlockContent document children margin place crossed p emptyAt) := by
  intro s node after read
  unfold readBlockContent at read
  dsimp only at read
  split at read
  · cases read
    exact spends_empty s emptyAt
  · split at read
    · split at read
      · -- A sequence may stand at the column of its key.
        rename_i indented
        exact readBlockSequence_pays blocks indented.2.2 read
      · cases read
        exact spends_empty s emptyAt
    · split at read
      · rename_i dash
        split at read
        · simp [State.fail] at read
        · exact readBlockSequence_pays blocks dash read
      · split at read
        · simp [State.fail] at read
        · -- The cases follow the character that the node begins with.
          split at read
          · split at read
            · simp [State.fail] at read
            · exact pays_line_end (readAlias_pays false) _ _ _ read
          · simp [State.fail] at read
          · simp [State.fail] at read
          · exact pays_line_end flows _ _ _ read
          · exact pays_line_end flows _ _ _ read
          · exact readBlockScalar_pays _ _ _ _ _ read
          · exact readBlockScalar_pays _ _ _ _ _ read
          · exact readMappingOrScalar_pays blocks _ _ _ _ _ _ read

/-- Every block node is paid for, whatever room there is for nesting. -/
theorem readBlockNode_pays (document : List Char) (room margin : Nat) (place : Place) :
    Pays (readBlockNode document room margin place) := by
  -- The room shrinks by one level of nesting.
  induction room generalizing margin place with
  | zero =>
    intro s child after read
    simp [readBlockNode, State.fail] at read
  | succ room ih =>
    intro s child after read
    unfold readBlockNode at read
    have layout := Cursor.left_skipLayout_le s.cursor
    rcases skipped : s.cursor.skipLayout with ⟨content, crossed⟩
    rw [skipped] at layout
    dsimp only at read
    rw [skipped] at read
    obtain ⟨⟨p, c⟩, properties, read⟩ := bind_eq_ok.mp read
    have passed := readProperties_left properties
    -- Layout and properties are passed before the content is read.
    have further : c.left + 1 ≤ s.cursor.left + 1 := by
      dsimp only at layout passed
      omega
    obtain ⟨⟨node, behind⟩, inside, read⟩ := bind_eq_ok.mp read
    have content := readBlockContent_pays ⟨readBlockNode document room, readFlowNode document room⟩
      ih (readFlowNode_pays document room) margin place _ p _ _ _ _ inside
    exact finishNode_pays (content.moved (s := s) further) read

/-- A document has at most one node more than its text has characters and aliases may copy, and
repeats no key. -/
theorem read_pays {text : List Char} {root : Node} (answered : read text = .ok root) :
    root.count ≤ text.length + 1 + maxAliasNodes ∧ root.Distinct := by
  unfold read at answered
  obtain ⟨⟨node, behind⟩, inside, answered⟩ := bind_eq_ok.mp answered
  obtain ⟨_, _, answered⟩ := bind_eq_ok.mp answered
  cases answered
  have spends := readBlockNode_pays _ _ _ _ _ _ _ inside
  have mark := Cursor.left_skipByteOrderMark_le (Cursor.start text)
  have directives := Cursor.left_skipDirectives_le (text.length + 1)
    (Cursor.start text).skipByteOrderMark
  -- The whole text is left at the start.
  have whole : (Cursor.start text).left = text.length := rfl
  refine ⟨?_, spends.shape (by simp [State.Anchored])⟩
  have size := spends.size
  have budget := spends.budget (Nat.zero_le _)
  -- An opening marker may be skipped as well.
  have opened : (if ((Cursor.start text).skipByteOrderMark.skipDirectives
      (text.length + 1)).atMarker openingMarker then
        ((Cursor.start text).skipByteOrderMark.skipDirectives (text.length + 1)).advance 3
      else (Cursor.start text).skipByteOrderMark.skipDirectives (text.length + 1)).left ≤
      text.length := by
    have marker := Cursor.left_advance_le 3
      ((Cursor.start text).skipByteOrderMark.skipDirectives (text.length + 1))
    split <;> omega
  dsimp only at size budget
  omega

end SpecTrace.Yaml
