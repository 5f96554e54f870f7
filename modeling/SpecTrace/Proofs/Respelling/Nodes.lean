import SpecTrace.Document.Address
import SpecTrace.Proofs.Document.Children
import SpecTrace.Proofs.Respelling.Layout
import SpecTrace.Yaml.Properties

/-! Nodes and errors read alike from two spellings of a text. -/

namespace SpecTrace

/-- A position cuts off the text that is left there. -/
theorem Cursor.StandsIn.dropBytes {text : List Char} {c : Cursor} (stands : c.StandsIn text) :
    dropBytes c.offset text = c.rest := by
  obtain ⟨front, whole, offset⟩ := stands
  rw [whole, offset, dropBytes_append]

/-- The bytes before a position and those that are left make the text. -/
theorem Cursor.StandsIn.offset {text : List Char} {c : Cursor} (stands : c.StandsIn text) :
    c.offset + byteLength c.rest = byteLength text := by
  obtain ⟨front, whole, offset⟩ := stands
  rw [whole, offset, byteLength_append]

/-- Between two positions stands the text that was passed. -/
theorem textAt_of_passes {text word : List Char} {c after : Cursor} (stands : c.StandsIn text)
    (passed : c.Passes word after) : Yaml.textAt text ⟨c.offset, after.offset⟩ = word := by
  unfold Yaml.textAt
  rw [stands.dropBytes]
  exact passed.textUpTo

namespace Respelling

variable {way : Respelling} {aligned : Prop} {n : Nat} {c d : Cursor} {α β : Type}

/-- Two offsets at which the same lines are left. -/
def Meets (way : Respelling) (here there : Nat) : Prop :=
  ∃ n c d, way.Alike False n c d ∧ c.offset = here ∧ d.offset = there

/-- Two offsets with as many bytes behind them. -/
def Shifts (way : Respelling) (here there : Nat) : Prop :=
  there + byteLength way.text = here + byteLength way.respelt

/-- Positions that are alike meet. -/
theorem Alike.meets (alike : way.Alike aligned n c d) : way.Meets c.offset d.offset :=
  ⟨n, c, d, alike.narrow False.elim, rfl, rfl⟩

/-- Where the same characters are left, as many bytes are left. -/
theorem Meets.shifts {here there : Nat} (meets : way.Meets here there)
    (exactly : way.verbatim) : way.Shifts here there := by
  obtain ⟨_, c, d, alike, rfl, rfl⟩ := meets
  -- What lies before a position is what the text has but for the rest.
  have left := alike.here.offset
  have right := alike.there.offset
  rw [alike.verbatim exactly] at right
  unfold Shifts
  omega

/-- Spans that begin alike; they end alike as far as the same characters are left. -/
structure SameSpan (way : Respelling) (span other : Span) : Prop where
  start : way.Meets span.start other.start
  stop : way.verbatim → way.Shifts span.stop other.stop

/-- Between positions that are alike spans are alike. -/
theorem Meets.span {start otherStart stop otherStop : Nat} (begins : way.Meets start otherStart)
    (ends : way.Meets stop otherStop) : way.SameSpan ⟨start, stop⟩ ⟨otherStart, otherStop⟩ :=
  ⟨begins, ends.shifts⟩

/-- Where the same characters are left, spans that are alike hold the same text. -/
theorem SameSpan.textAt {span other : Span} (same : way.SameSpan span other)
    (exactly : way.verbatim) :
    Yaml.textAt way.respelt other = Yaml.textAt way.text span := by
  -- As many bytes lie between the ends as between the others.
  have starts := same.start.shifts exactly
  have stops := same.stop exactly
  obtain ⟨_, c, d, alike, here, there⟩ := same.start
  unfold Yaml.textAt
  -- The same characters are left behind both starts, and as many bytes are taken of them.
  rw [← here, ← there, alike.here.dropBytes, alike.there.dropBytes, alike.verbatim exactly, here,
    there]
  congr 1
  unfold Shifts at starts stops
  omega

mutual

/-- Nodes of the same shape with the same scalars, at spans that are alike. -/
inductive Same (way : Respelling) : Node → Node → Prop
  | scalar {value : Scalar} {span other : Span} (spans : way.SameSpan span other)
      (text : Yaml.scalarText way.respelt value other = Yaml.scalarText way.text value span) :
      Same way (.scalar value span) (.scalar value other)
  | sequence {items otherItems : List Node} {span other : Span} (spans : way.SameSpan span other)
      (inside : SameItems way items otherItems) :
      Same way (.sequence items span) (.sequence otherItems other)
  | mapping {entries otherEntries : List (Entry Node)} {span other : Span}
      (spans : way.SameSpan span other) (inside : SameEntries way entries otherEntries) :
      Same way (.mapping entries span) (.mapping otherEntries other)

/-- Items that are the same one by one. -/
inductive SameItems (way : Respelling) : List Node → List Node → Prop
  | nil : SameItems way [] []
  | cons {item other : Node} {rest others : List Node} (first : Same way item other)
      (more : SameItems way rest others) : SameItems way (item :: rest) (other :: others)

/-- Entries with the same keys, whose values are the same one by one. -/
inductive SameEntries (way : Respelling) : List (Entry Node) → List (Entry Node) → Prop
  | nil : SameEntries way [] []
  | cons {key : String} {keySpan otherSpan : Span} {value other : Node}
      {rest others : List (Entry Node)} (keys : way.SameSpan keySpan otherSpan)
      (first : Same way value other) (more : SameEntries way rest others) :
      SameEntries way (⟨key, keySpan, value⟩ :: rest) (⟨key, otherSpan, other⟩ :: others)

end

/-- Nodes that are the same stand at spans that are alike. -/
theorem Same.span {node other : Node} (same : way.Same node other) :
    way.SameSpan node.span other.span := by
  cases same with
  | scalar spans _ => exact spans
  | sequence spans _ => exact spans
  | mapping spans _ => exact spans

/-- A scalar with the text between two positions of a line is the same on both sides. -/
theorem Alike.scalar_same {cEnd dEnd : Cursor} (alike : way.Alike aligned n c d)
    (abreast : Abreast c d cEnd dEnd) (value : Scalar) :
    way.Same (.scalar value ⟨c.offset, cEnd.offset⟩) (.scalar value ⟨d.offset, dEnd.offset⟩) := by
  refine .scalar (alike.meets.span (alike.pass abreast).meets) ?_
  obtain ⟨word, _, left, right⟩ := abreast
  -- A string spells its own text; any other scalar is spelled by the characters at its span.
  cases value with
  | string text => rfl
  | _ =>
    unfold Yaml.scalarText
    rw [textAt_of_passes alike.here left, textAt_of_passes alike.there right]

mutual

/-- Nodes that are the same have the same value. -/
theorem Same.toJson_eq {node other : Node} : way.Same node other → other.toJson = node.toJson
  | .scalar _ _ => rfl
  | .sequence _ inside => by rw [Node.toJson, Node.toJson, inside.toJson_eq]
  | .mapping _ inside => by rw [Node.toJson, Node.toJson, inside.toJson_eq]

/-- Items that are the same have the same values. -/
theorem SameItems.toJson_eq {items others : List Node} :
    way.SameItems items others → Node.itemsToJson others = Node.itemsToJson items
  | .nil => rfl
  | .cons first more => by
    rw [Node.itemsToJson, Node.itemsToJson, first.toJson_eq, more.toJson_eq]

/-- Entries that are the same have the same members. -/
theorem SameEntries.toJson_eq {entries others : List (Entry Node)} :
    way.SameEntries entries others → Node.entriesToJson others = Node.entriesToJson entries
  | .nil => rfl
  | .cons _ first more => by
    rw [Node.entriesToJson, Node.entriesToJson, first.toJson_eq, more.toJson_eq]

end

mutual

/-- Nodes that are the same have as many nodes in them. -/
theorem Same.count_eq {node other : Node} : way.Same node other → other.count = node.count
  | .scalar _ _ => rfl
  | .sequence _ inside => by rw [Node.count, Node.count, inside.count_eq]
  | .mapping _ inside => by rw [Node.count, Node.count, inside.count_eq]

/-- Items that are the same have as many nodes in them. -/
theorem SameItems.count_eq {items others : List Node} :
    way.SameItems items others → Node.countItems others = Node.countItems items
  | .nil => rfl
  | .cons first more => by rw [Node.countItems, Node.countItems, first.count_eq, more.count_eq]

/-- Entries that are the same have as many nodes in them. -/
theorem SameEntries.count_eq {entries others : List (Entry Node)} :
    way.SameEntries entries others → Node.countEntries others = Node.countEntries entries
  | .nil => rfl
  | .cons _ first more => by
    rw [Node.countEntries, Node.countEntries, first.count_eq, more.count_eq]

end

/-- A node and another found in the same place, or neither. -/
inductive SameFound (way : Respelling) : Option Node → Option Node → Prop
  | none : SameFound way none none
  | some {node other : Node} (same : way.Same node other) :
      SameFound way (some node) (some other)

/-- The same item stands at an index. -/
theorem SameItems.getElem? {items others : List Node} (same : way.SameItems items others)
    (i : Nat) : way.SameFound items[i]? others[i]? := by
  -- By induction on the items, with the index going down along them.
  induction items generalizing others i with
  | nil =>
    cases same
    exact .none
  | cons item rest ih =>
    cases same with
    | cons first more =>
      cases i with
      | zero => exact .some first
      | succ i => exact ih more i

/-- The same value is stored under a key. -/
theorem SameEntries.find? {entries others : List (Entry Node)}
    (same : way.SameEntries entries others) (key : String) :
    way.SameFound ((entries.find? fun entry => entry.key = key).map Entry.value)
      ((others.find? fun entry => entry.key = key).map Entry.value) := by
  -- By induction on the entries, whose keys are the same one by one.
  induction entries generalizing others with
  | nil =>
    cases same
    exact .none
  | cons entry rest ih =>
    cases same with
    | cons keys first more =>
      rename_i name _ _ _ _ _
      -- Both searches stop here if the key is this one.
      by_cases here : name = key
      · simpa [here] using .some first
      · simpa [here] using ih more

/-- The same child stands under a segment. -/
theorem Same.child? {node other : Node} (same : way.Same node other) (segment : String) :
    way.SameFound (node.child? segment) (other.child? segment) := by
  cases same with
  | scalar => exact .none
  | sequence _ inside =>
    unfold Node.child?
    cases canonicalIndex? segment with
    | none => exact .none
    | some i => exact inside.getElem? i
  -- A key is found by its text, wherever it was written.
  | mapping _ inside => exact inside.find? segment

/-- The same node stands at a pointer. -/
theorem Same.find? {node other : Node} (same : way.Same node other) (pointer : Pointer) :
    way.SameFound (node.find? pointer) (other.find? pointer) := by
  -- By induction on the pointer: each segment leads to children that are the same.
  induction pointer generalizing node other with
  | nil => exact .some same
  | cons segment rest ih =>
    unfold Node.find?
    have child := same.child? segment
    generalize node.child? segment = found at child
    generalize other.child? segment = otherFound at child
    cases child with
    | none => exact .none
    | some below => exact ih below

/-! ### Readings -/

/-- Both readings answer something alike, or both fail; where the same characters are left they
fail for the same reason in the same place. -/
inductive Agree (way : Respelling) (P : α → α → Prop) : Reading α → Reading α → Prop
  | ok {x y : α} (holds : P x y) : Agree way P (.ok x) (.ok y)
  | error {e f : SyntaxError}
      (same : way.verbatim → f.fault = e.fault ∧ way.Shifts e.offset f.offset) :
      Agree way P (.error e) (.error f)

/-- The first parts and the second parts of two pairs are alike. -/
def Both (P : α → α → Prop) (Q : β → β → Prop) (x y : α × β) : Prop :=
  P x.1 y.1 ∧ Q x.2 y.2

namespace Agree

variable {P : α → α → Prop} {Q : β → β → Prop} {r s : Reading α}

/-- Readings that agree go on to agree. -/
theorem bind {f g : α → Reading β} (agree : way.Agree P r s)
    (further : ∀ x y, P x y → way.Agree Q (f x) (g y)) : way.Agree Q (r >>= f) (s >>= g) := by
  cases agree with
  | ok holds => exact further _ _ holds
  | error same => exact .error same

/-- What is weaker is agreed on as well. -/
theorem imp {R : α → α → Prop} (agree : way.Agree P r s) (weaker : ∀ x y, P x y → R x y) :
    way.Agree R r s := by
  cases agree with
  | ok holds => exact .ok (weaker _ _ holds)
  | error same => exact .error same

/-- What is agreed on is what both readings answer. -/
theorem answers (agree : way.Agree P r s) :
    way.Agree (fun x y => P x y ∧ r = .ok x ∧ s = .ok y) r s := by
  cases agree with
  | ok holds => exact .ok ⟨holds, rfl, rfl⟩
  | error same => exact .error same

/-- Failures with the same fault at offsets that are alike agree. -/
theorem fault {here there : Nat} (shifts : way.verbatim → way.Shifts here there)
    (fault : SyntaxFault) : way.Agree P (.error ⟨here, fault⟩) (.error ⟨there, fault⟩) :=
  .error fun exactly => ⟨rfl, shifts exactly⟩

/-- Failures with the same fault at positions that are alike agree. -/
theorem fail (alike : way.Alike aligned n c d) (fault : SyntaxFault) :
    way.Agree P (c.fail fault) (d.fail fault) :=
  .fault alike.meets.shifts fault

/-- Failures with a fault that is told from the characters that are left agree. -/
theorem fail_by (alike : way.Alike aligned n c d) (fault : List Char → SyntaxFault) :
    way.Agree P (c.fail (fault c.rest)) (d.fail (fault d.rest)) :=
  .error fun exactly => ⟨congrArg fault (alike.verbatim exactly), alike.meets.shifts exactly⟩

/-- Both readings go on by the same case. -/
theorem ite {p q : Prop} [Decidable p] [Decidable q] {r' s' : Reading α} (same : q ↔ p)
    (holds : p → way.Agree P r s) (fails : ¬ p → way.Agree P r' s') :
    way.Agree P (if p then r else r') (if q then s else s') := by
  -- The two conditions are the same, so they choose the same branch.
  by_cases case : p
  · rw [if_pos case, if_pos (same.mpr case)]
    exact holds case
  · rw [if_neg case, if_neg (mt same.mp case)]
    exact fails case

end Agree

/-- A key is refused on both sides or on neither. -/
theorem refuseRepeated_agree {here there : Nat} (shifts : way.verbatim → way.Shifts here there)
    (seen : List String) (key : String) :
    way.Agree (fun _ _ => True) (refuseRepeated seen key here) (refuseRepeated seen key there) :=
  .ite Iff.rfl (fun _ => .fault shifts _) fun _ => .ok trivial

end Respelling

end SpecTrace
