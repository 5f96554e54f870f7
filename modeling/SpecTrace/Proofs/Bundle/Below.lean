import SpecTrace.Proofs.Bundle.Placing
import SpecTrace.Proofs.Document.Keys

/-! What stands right below a walked value: the walked children of its node, unless the node is a
reference, whose answer decides. -/

namespace SpecTrace

variable {context : BundleContext} {depth : Nat} {visit : Visit} {s s' : BundleState}

/-- Walked members have the keys of the children, in their order. -/
theorem WalkedChildren.keys {beside : Bool} : {children : List (String × Node)} →
    {s s' : BundleState} → {members : List (String × Json)} →
    WalkedChildren context depth visit beside children s members s' →
      members.map Prod.fst = children.map Prod.fst
  | _, _, _, _, .nil => rfl
  | _, _, _, _, .reference others => by simp [others.keys]
  | _, _, _, _, .cons _ _ others => by simp [others.keys]

/-- Every walked member is the value of a walked child. -/
theorem WalkedChildren.member {beside : Bool} {segment : String} {value : Json} :
    {children : List (String × Node)} → {s s' : BundleState} → {members : List (String × Json)} →
    WalkedChildren context depth visit beside children s members s' →
      (segment, value) ∈ members → (beside = true → segment ≠ referenceKey) →
        ∃ child s₁ s₂, (segment, child) ∈ children ∧
          Walked context depth (visit.child segment child) s₁ value s₂ ∧
          BundleSteps context s s₁ ∧ BundleSteps context s₂ s'
  | _, _, _, _, .nil, member, _ => by cases member
  | _, _, _, _, .reference others, member, other => by
    rcases List.mem_cons.mp member with here | later
    · -- The reference itself was not walked.
      cases here
      exact absurd rfl (other rfl)
    · obtain ⟨child, s₁, s₂, inside, walked, before, after⟩ := others.member later other
      exact ⟨child, s₁, s₂, List.mem_cons_of_mem _ inside, walked, before, after⟩
  | _, _, _, _, .cons _ walked others, member, other => by
    rcases List.mem_cons.mp member with here | later
    · cases here
      exact ⟨_, _, _, List.mem_cons_self, walked, .refl, others.steps⟩
    · -- The member is one of the others, which are walked from where the first walk has ended.
      obtain ⟨child, s₁, s₂, inside, inner, before, after⟩ := others.member later other
      exact ⟨child, s₁, s₂, List.mem_cons_of_mem _ inside, inner, walked.steps.trans before, after⟩

/-- The value that a key finds among walked members is that of the child which the key finds. -/
theorem WalkedChildren.lookup {beside : Bool} {segment : String} {value : Json} :
    {children : List (String × Node)} → {s s' : BundleState} → {members : List (String × Json)} →
    WalkedChildren context depth visit beside children s members s' →
      lookupMember? members segment = some value → (beside = true → segment ≠ referenceKey) →
        ∃ child s₁ s₂, lookupMember? children segment = some child ∧
          Walked context depth (visit.child segment child) s₁ value s₂ ∧
          BundleSteps context s s₁ ∧ BundleSteps context s₂ s'
  | _, _, _, _, .nil, found, _ => by cases found
  | _, _, _, _, .reference others, found, other => by
    -- The key is not the one of the reference, so it finds nothing here.
    have different := Ne.symm (other rfl)
    rw [lookupMember?_cons, if_neg different] at found
    obtain ⟨child, s₁, s₂, held, walked, before, after⟩ := others.lookup found other
    refine ⟨child, s₁, s₂, ?_, walked, before, after⟩
    rw [lookupMember?_cons, if_neg different, held]
  | (name, _) :: _, _, _, _, .cons _ walked others, found, other => by
    rw [lookupMember?_cons] at found
    by_cases same : name = segment
    · -- Both lists begin with the key.
      subst same
      rw [if_pos rfl] at found
      cases found
      exact ⟨_, _, _, by rw [lookupMember?_cons, if_pos rfl], walked, .refl, others.steps⟩
    · rw [if_neg same] at found
      obtain ⟨child, s₁, s₂, held, inner, before, after⟩ := others.lookup found other
      refine ⟨child, s₁, s₂, ?_, inner, walked.steps.trans before, after⟩
      rw [lookupMember?_cons, if_neg same, held]

/-- A child that its segment names was walked, and its value stands under the same segment. -/
theorem WalkedChildren.child {beside : Bool} {segment : String} {child : Node}
    {children : List (String × Node)} {members : List (String × Json)}
    (walks : WalkedChildren context depth visit beside children s members s')
    (found : lookupMember? children segment = some child)
    (other : beside = true → segment ≠ referenceKey) :
    ∃ value s₁ s₂, lookupMember? members segment = some value ∧
      Walked context depth (visit.child segment child) s₁ value s₂ ∧
      BundleSteps context s s₁ ∧ BundleSteps context s₂ s' := by
  -- The members have the same keys, so there is a value under the segment.
  have present : segment ∈ members.map Prod.fst := by
    rw [walks.keys]
    exact lookupMember?_isSome_iff.mp (by rw [found]; rfl)
  obtain ⟨value, held⟩ := Option.isSome_iff_exists.mp (lookupMember?_isSome_iff.mpr present)
  obtain ⟨same, s₁, s₂, inside, walked, before, after⟩ := walks.lookup held other
  rw [found] at inside
  cases inside
  exact ⟨value, s₁, s₂, held, walked, before, after⟩

/-- The items of an array stand under the segments of their indices. -/
theorem lookupMember?_items {members : List (String × Json)} {start : Nat}
    (keys : members.map Prod.fst = (List.range' start members.length).map indexSegment) (i : Nat) :
    lookupMember? members (indexSegment (start + i)) = (members.map Prod.snd)[i]? := by
  -- By induction on the members, with the first index moving along.
  induction members generalizing start i with
  | nil => rfl
  | cons member rest ih =>
    rcases member with ⟨name, value⟩
    simp only [List.map_cons, List.length_cons, List.range'_succ, List.cons.injEq] at keys
    obtain ⟨rfl, keys⟩ := keys
    rw [lookupMember?_cons]
    cases i with
    | zero => simp
    | succ i =>
      -- The first index is another one.
      have different : indexSegment start ≠ indexSegment (start + (i + 1)) := by
        rw [Ne, indexSegment_inj]
        omega
      rw [if_neg different, List.map_cons, List.getElem?_cons_succ, ← ih keys]
      congr 2
      omega

/-- The value of a sequence has its items under the segments of the children. -/
theorem child?_array_of_keys {items : List Node} {members : List (String × Json)}
    (keys : members.map Prod.fst = (Node.indexed 0 items).map Prod.fst) (segment : String) :
    (Json.array (members.map Prod.snd)).child? segment = lookupMember? members segment := by
  -- There are as many members as items, so that they have the same indices.
  have length : items.length = members.length := by
    have lengths := congrArg List.length keys
    rw [Node.indexed_keys] at lengths
    simpa using lengths.symm
  rw [Node.indexed_keys, length] at keys
  simp only [Json.child?]
  -- A segment that spells an index finds the item there.
  cases spelled : canonicalIndex? segment with
  | some i =>
    rw [canonicalIndex?_eq_some_iff.mp spelled, Option.bind_some, ← lookupMember?_items keys,
      Nat.zero_add]
  | none =>
    -- No key of the members is such a segment.
    cases held : lookupMember? members segment with
    | none => rfl
    | some value =>
      have present := lookupMember?_isSome_iff.mp (by rw [held]; rfl)
      rw [keys] at present
      obtain ⟨i, _, rfl⟩ := List.mem_map.mp present
      rw [canonicalIndex?_eq_some_iff.mpr rfl] at spelled
      cases spelled

/-- Below the value of a node that is no reference stand the walked children. -/
theorem Walked.of_plain {value : Json} (walked : Walked context depth visit s value s')
    (plain : visit.node.reference? = none) :
    ∃ members, WalkedChildren context depth visit false visit.node.children s members s' ∧
      ∀ segment, value.child? segment = lookupMember? members segment := by
  -- One case for each kind of node, a reference excluded.
  cases walked with
  | scalar shape =>
    rename_i scalar span
    refine ⟨[], ?_, fun segment => ?_⟩
    · -- A scalar has neither children nor members.
      rw [shape]
      exact .nil
    · cases scalar <;> rfl
  | sequence shape children =>
    rename_i items span members
    -- The keys of the members are the segments of the items.
    have keys : members.map Prod.fst = (Node.indexed 0 items).map Prod.fst := by
      rw [children.keys, shape]
      rfl
    exact ⟨members, children, child?_array_of_keys keys⟩
  | mapping shape _ children => exact ⟨_, children, fun segment => rfl⟩
  | reference refers _ _ =>
    rw [plain] at refers
    cases refers

/-- The value of a reference is made of its answer and the members walked beside it. -/
theorem Walked.of_reference {value : Json} {raw : String}
    (walked : Walked context (depth + 1) visit s value s')
    (refers : visit.node.reference? = some raw) :
    ∃ answer s₁ members, Answered context depth visit raw s answer s₁ ∧
      WalkedChildren context (depth + 1) visit true visit.node.children s₁ members s' ∧
      value = answer.complete members := by
  obtain ⟨entries, span, mapping⟩ := Node.mapping_of_reference? refers
  -- Only the last case is that of a reference.
  cases walked with
  | scalar shape =>
    rw [mapping] at shape
    cases shape
  | sequence shape _ =>
    rw [mapping] at shape
    cases shape
  | mapping _ plain _ =>
    rw [plain] at refers
    cases refers
  | reference refersTo answered siblings =>
    rw [refers] at refersTo
    cases refersTo
    exact ⟨_, _, _, answered, siblings, rfl⟩

/-- Siblings hide the members of the content that have their keys; the reference itself hides
none. -/
theorem get?_overlay (members siblings : List (String × Json)) (key : String) :
    (overlay (.object members) siblings).get? key =
      (lookupMember? (siblings.filter fun member => member.1 ≠ referenceKey).reverse key).or
        (lookupMember? members key) :=
  lookupMember?_foldl_insertMember _ members key

/-- What stands below content under siblings stood below the content or is a sibling. -/
theorem child?_overlay_cases {content : Json} {siblings : List (String × Json)} {segment : String}
    {below : Json} (found : (overlay content siblings).child? segment = some below) :
    content.child? segment = some below ∨
      segment ≠ referenceKey ∧ (segment, below) ∈ siblings := by
  cases content with
  | object members =>
    change (overlay (.object members) siblings).get? segment = some below at found
    rw [get?_overlay, Option.or_eq_some_iff] at found
    rcases found with found | ⟨_, found⟩
    · -- The reference itself was left out.
      have member := List.mem_reverse.mp (lookupMember?_mem found)
      obtain ⟨inside, other⟩ := List.mem_filter.mp member
      exact Or.inr ⟨by simpa using other, inside⟩
    · exact Or.inl found
  | _ => exact Or.inl found

/-- A sibling with a key of its own is found under content that is an object. -/
theorem child?_overlay_of_mem {members siblings : List (String × Json)} {segment : String}
    {below : Json} (keys : (siblings.map Prod.fst).Nodup) (member : (segment, below) ∈ siblings)
    (other : segment ≠ referenceKey) :
    (overlay (.object members) siblings).child? segment = some below := by
  change (overlay (.object members) siblings).get? segment = some below
  -- The keys of the siblings that are put over the content stay different in reverse.
  have once : ((siblings.filter fun member => member.1 ≠ referenceKey).reverse.map
      Prod.fst).Nodup := by
    rw [List.map_reverse, List.nodup_reverse]
    exact keys.sublist (List.filter_sublist.map _)
  have inside : (segment, below) ∈
      (siblings.filter fun member => member.1 ≠ referenceKey).reverse :=
    List.mem_reverse.mpr (List.mem_filter.mpr ⟨member, by simpa using other⟩)
  rw [get?_overlay, lookupMember?_of_mem once inside, Option.some_or]

/-- Every answer that makes an object leaves the siblings where they are. -/
theorem Answer.child?_complete {answer : Answer} {siblings object : List (String × Json)}
    {segment : String} {below : Json} (shape : answer.complete siblings = .object object)
    (keys : (siblings.map Prod.fst).Nodup) (found : lookupMember? siblings segment = some below)
    (other : segment ≠ referenceKey) :
    (answer.complete siblings).child? segment = some below := by
  cases answer with
  | kept => exact found
  | pointing pointer =>
    change lookupMember? (setReference siblings pointer) segment = some below
    rw [setReference, lookupMember?_insertMember_ne other, found]
  | replaced content =>
    -- Content that is no object takes the siblings away.
    cases content with
    | object members => exact child?_overlay_of_mem keys (lookupMember?_mem found) other
    | _ => cases shape

/-- Below the value of a reference stands a sibling, what content in its place has there, or the
text that it was answered with. -/
theorem Answer.child?_complete_cases {answer : Answer} {siblings : List (String × Json)}
    {segment : String} {below : Json}
    (found : (answer.complete siblings).child? segment = some below) :
    (segment ≠ referenceKey ∧ (segment, below) ∈ siblings) ∨
      (∃ content, answer = .replaced content ∧ content.child? segment = some below) ∨
      (segment = referenceKey ∧
        (answer = .kept ∧ lookupMember? siblings referenceKey = some below ∨
          ∃ pointer : Pointer, answer = .pointing pointer ∧ below = .string pointer.fragment)) := by
  cases answer with
  | kept =>
    change lookupMember? siblings segment = some below at found
    by_cases own : segment = referenceKey
    · -- The key is that of the reference itself.
      subst own
      exact Or.inr (Or.inr ⟨rfl, Or.inl ⟨rfl, found⟩⟩)
    · exact Or.inl ⟨own, lookupMember?_mem found⟩
  | pointing pointer =>
    change lookupMember? (setReference siblings pointer) segment = some below at found
    by_cases own : segment = referenceKey
    · subst own
      -- The reference was rewritten.
      rw [setReference, lookupMember?_insertMember_self] at found
      cases found
      exact Or.inr (Or.inr ⟨rfl, Or.inr ⟨pointer, rfl, rfl⟩⟩)
    · rw [setReference, lookupMember?_insertMember_ne own] at found
      exact Or.inl ⟨own, lookupMember?_mem found⟩
  | replaced content =>
    rcases child?_overlay_cases found with inside | sibling
    · exact Or.inr (Or.inl ⟨content, rfl, inside⟩)
    · exact Or.inl sibling

end SpecTrace
