import Mathlib.Algebra.Group.Int.Defs
import SpecTrace.Proofs.Document.Reading

/-! How deep a JSON value is nested, and which values a document can hold. -/

namespace SpecTrace

namespace Json

mutual

/-- The number of arrays and objects around the innermost value, with itself. -/
def depth : Json → Nat
  | .null => 0
  | .bool _ => 0
  | .number _ => 0
  | .string _ => 0
  | .array items => itemsDepth items + 1
  | .object members => membersDepth members + 1

/-- The largest depth among the items of an array. -/
def itemsDepth : List Json → Nat
  | [] => 0
  | item :: rest => max item.depth (itemsDepth rest)

/-- The largest depth among the values of an object. -/
def membersDepth : List (String × Json) → Nat
  | [] => 0
  | (_, value) :: rest => max value.depth (membersDepth rest)

end

/-- Items are as deep as the deepest of them. -/
theorem itemsDepth_le {items : List Json} {room : Nat} :
    itemsDepth items ≤ room ↔ ∀ item ∈ items, item.depth ≤ room := by
  induction items with
  | nil => simp [itemsDepth]
  | cons item rest ih => simp only [itemsDepth, Nat.max_le, ih, List.forall_mem_cons]

/-- Members are as deep as the deepest of their values. -/
theorem membersDepth_le {members : List (String × Json)} {room : Nat} :
    membersDepth members ≤ room ↔ ∀ member ∈ members, member.2.depth ≤ room := by
  induction members with
  | nil => simp [membersDepth]
  | cons member rest ih => simp only [membersDepth, Nat.max_le, ih, List.forall_mem_cons]

/-- What fits around an array fits around its items with one level less. -/
theorem items_fit {items : List Json} {more room : Nat}
    (fits : (array items).depth + more ≤ room + 1) : ∀ item ∈ items, item.depth + more ≤ room := by
  intro item member
  -- An item is at most as deep as the deepest one.
  have below := itemsDepth_le.mp (Nat.le_refl _) item member
  simp only [depth] at fits
  omega

/-- What fits around an object fits around its values with one level less. -/
theorem members_fit {members : List (String × Json)} {more room : Nat}
    (fits : (object members).depth + more ≤ room + 1) :
    ∀ member ∈ members, member.2.depth + more ≤ room := by
  intro member inside
  have below := membersDepth_le.mp (Nat.le_refl _) member inside
  simp only [depth] at fits
  omega

end Json

/-- Integers keep to 64 bits, with a sign or without. -/
def JsonNumber.InRange : JsonNumber → Prop
  | .int value => -2 ^ 63 ≤ value ∧ value < 2 ^ 64
  | .float _ => True

/-- A value whose numbers are in range and whose objects repeat no key. -/
inductive Json.Proper : Json → Prop
  | null : Proper .null
  | bool {value : Bool} : Proper (.bool value)
  | number {value : JsonNumber} (inRange : value.InRange) : Proper (.number value)
  | string {value : String} : Proper (.string value)
  | array {items : List Json} (below : ∀ item ∈ items, Proper item) : Proper (.array items)
  | object {members : List (String × Json)} (keys : (members.map Prod.fst).Nodup)
    (below : ∀ member ∈ members, Proper member.2) : Proper (.object members)

/-- The items of an array are proper if the array is. -/
theorem Json.Proper.items {items : List Json} (proper : (Json.array items).Proper) :
    ∀ item ∈ items, item.Proper :=
  match proper with | .array below => below

/-- An object that is proper repeats no key. -/
theorem Json.Proper.keys {members : List (String × Json)} (proper : (Json.object members).Proper) :
    (members.map Prod.fst).Nodup :=
  match proper with | .object keys _ => keys

/-- The values of an object are proper if the object is. -/
theorem Json.Proper.members {members : List (String × Json)}
    (proper : (Json.object members).Proper) : ∀ member ∈ members, member.2.Proper :=
  match proper with | .object _ below => below

namespace Node

/-- The items lose their positions one by one. -/
theorem itemsToJson_eq_map (items : List Node) : itemsToJson items = items.map toJson := by
  induction items with
  | nil => rfl
  | cons item rest ih => simp [itemsToJson, ih]

/-- The entries lose their positions one by one. -/
theorem entriesToJson_eq_map (entries : List (Entry Node)) :
    entriesToJson entries = entries.map fun entry => (entry.key, entry.value.toJson) := by
  induction entries with
  | nil => rfl
  | cons entry rest ih => simp [entriesToJson, ih]

/-- A sequence is one level deeper than its items. -/
theorem depth_sequence_le {items : List Node} {span : Span} {room : Nat} :
    (sequence items span).toJson.depth ≤ room + 1 ↔ ∀ item ∈ items, item.toJson.depth ≤ room := by
  simp [toJson, Json.depth, Json.itemsDepth_le, itemsToJson_eq_map]

/-- A mapping is one level deeper than its values. -/
theorem depth_mapping_le {entries : List (Entry Node)} {span : Span} {room : Nat} :
    (mapping entries span).toJson.depth ≤ room + 1 ↔
      ∀ entry ∈ entries, entry.value.toJson.depth ≤ room := by
  simp [toJson, Json.depth, Json.membersDepth_le, entriesToJson_eq_map]

mutual

/-- A tree whose value repeats no key repeats none itself. -/
theorem distinct_of_proper : ∀ {node : Node}, node.toJson.Proper → node.Distinct
  | .scalar _ _, _ => .scalar
  -- A scalar has no keys, and a collection has those of its children.
  | .sequence items _, .array below => by
    refine .sequence (items_distinct_of_proper fun item member => below _ ?_)
    -- The values of the items are the items of the value.
    rw [itemsToJson_eq_map]
    exact List.mem_map_of_mem member
  | .mapping entries _, .object keys below => by
    -- The keys of the object are those of the entries.
    rw [entriesToJson_eq_map, List.map_map] at keys
    refine .mapping keys (entries_distinct_of_proper fun entry member => ?_)
    refine below (entry.key, entry.value.toJson) ?_
    rw [entriesToJson_eq_map]
    exact List.mem_map_of_mem member

theorem items_distinct_of_proper : ∀ {items : List Node},
    (∀ item ∈ items, item.toJson.Proper) → ∀ item ∈ items, item.Distinct
  | [], _ => by simp
  | _ :: _, proper =>
    List.forall_mem_cons.mpr ⟨distinct_of_proper (proper _ List.mem_cons_self),
      items_distinct_of_proper fun item member => proper item (List.mem_cons_of_mem _ member)⟩

theorem entries_distinct_of_proper : ∀ {entries : List (Entry Node)},
    (∀ entry ∈ entries, entry.value.toJson.Proper) → ∀ entry ∈ entries, entry.value.Distinct
  | [], _ => by simp
  | ⟨_, _, _⟩ :: _, proper =>
    List.forall_mem_cons.mpr ⟨distinct_of_proper (proper _ List.mem_cons_self),
      entries_distinct_of_proper fun entry member => proper entry (List.mem_cons_of_mem _ member)⟩

end

end Node

end SpecTrace
