import Mathlib.Logic.Relation
import SpecTrace.Proofs.Bundle.Walked

/-! Every run of the walk is one the relation knows: it answers as the relation says, or it comes
to a call that raises its fault. -/

namespace SpecTrace

open Relation

/-- A visit from a state on, with room for a number of references inside one another. -/
structure Call where
  depth : Nat
  visit : Visit
  state : BundleState

/-- What the walk answers to a call. -/
def Call.run (context : BundleContext) (call : Call) : Except AuditFault Json × BundleState :=
  runFrom (walkWithin context call.depth call.visit.node.toJson call.visit.place) call.state

/-- The calls that a call makes itself. -/
inductive Calls (context : BundleContext) : Call → Call → Prop
  | child {depth visit s before segment node behind members s₁}
    (plain : visit.node.reference? = none)
    (split : visit.node.children = before ++ (segment, node) :: behind)
    (earlier : WalkedChildren context (depth + 1) visit false before s members s₁) :
    Calls context ⟨depth + 1, visit, s⟩ ⟨depth + 1, visit.child segment node, s₁⟩
  | sibling {depth visit s raw answer s₁ before segment node behind members s₂}
    (refers : visit.node.reference? = some raw)
    (answered : Answered context depth visit raw s answer s₁)
    (split : visit.node.children = before ++ (segment, node) :: behind)
    (other : segment ≠ referenceKey)
    (earlier : WalkedChildren context (depth + 1) visit true before s₁ members s₂) :
    Calls context ⟨depth + 1, visit, s⟩ ⟨depth + 1, visit.child segment node, s₂⟩
  | moved {depth visit s raw version target node s₁ destination}
    (refers : visit.node.reference? = some raw)
    (leaves : Leaves context visit.origin.file raw s version target node s₁)
    (new : s₁.known? (sourceIn target raw) = none)
    (chosen : destination? context version (Reference.parse raw) target.path visit.site =
      some destination)
    (free : Free context s₁ (sourceIn target raw) destination) :
    Calls context ⟨depth + 1, visit, s⟩
      ⟨depth, ⟨sourceIn target raw, node, destination, []⟩,
        s₁.reserve (sourceIn target raw) destination⟩
  | replaced {depth visit s raw version target node s₁}
    (refers : visit.node.reference? = some raw)
    (leaves : Leaves context visit.origin.file raw s version target node s₁)
    (new : s₁.known? (sourceIn target raw) = none)
    (homeless : destination? context version (Reference.parse raw) target.path visit.site = none)
    (fresh : sourceIn target raw ∉ visit.inlining) :
    Calls context ⟨depth + 1, visit, s⟩
      ⟨depth, ⟨sourceIn target raw, node, visit.site, sourceIn target raw :: visit.inlining⟩,
        s₁.record visit.site (sourceIn target raw)⟩

/-- The faults that a call raises itself, and the state it leaves then. -/
inductive Raises (context : BundleContext) : Call → AuditFault → BundleState → Prop
  | exhausted {visit s} : Raises context ⟨0, visit, s⟩ .exhausted s
  | remote {depth visit s raw} (refers : visit.node.reference? = some raw)
    (far : (Reference.parse raw).kind = .remote) :
    Raises context ⟨depth + 1, visit, s⟩
      (ReferenceFault.notLocal.inFile visit.origin.file raw) s
  | unread {depth visit s raw fault s₁} (refers : visit.node.reference? = some raw)
    (near : (Reference.parse raw).kind ≠ .remote)
    (failed : runFrom (loadTarget context (Reference.parse raw) visit.origin.file) s =
      (.error fault, s₁)) :
    Raises context ⟨depth + 1, visit, s⟩ fault s₁
  | missing {depth visit s raw target s₁} (refers : visit.node.reference? = some raw)
    (near : (Reference.parse raw).kind ≠ .remote)
    (loaded : runFrom (loadTarget context (Reference.parse raw) visit.origin.file) s =
      (.ok target, s₁))
    (absent : target.root.find? (Reference.parse raw).pointer = none) :
    Raises context ⟨depth + 1, visit, s⟩
      ((ReferenceFault.missing (Reference.parse raw).pointer target.path).inFile
        visit.origin.file raw) s₁
  | unsupported {depth visit s raw target node s₁} (refers : visit.node.reference? = some raw)
    (reads : Reads context visit.origin.file raw s target node s₁)
    (foreign : target.path ≠ context.root.path) (unknown : context.version = none) :
    Raises context ⟨depth + 1, visit, s⟩ (.unsupportedVersion context.root.path.text) s₁
  | collision {depth visit s raw version target node s₁ destination}
    (refers : visit.node.reference? = some raw)
    (leaves : Leaves context visit.origin.file raw s version target node s₁)
    (new : s₁.known? (sourceIn target raw) = none)
    (chosen : destination? context version (Reference.parse raw) target.path visit.site =
      some destination)
    (taken : ¬ Free context s₁ (sourceIn target raw) destination) :
    Raises context ⟨depth + 1, visit, s⟩ (.collision destination.fragment) s₁
  | circular {depth visit s raw version target node s₁}
    (refers : visit.node.reference? = some raw)
    (leaves : Leaves context visit.origin.file raw s version target node s₁)
    (new : s₁.known? (sourceIn target raw) = none)
    (homeless : destination? context version (Reference.parse raw) target.path visit.site = none)
    (again : sourceIn target raw ∈ visit.inlining) :
    Raises context ⟨depth + 1, visit, s⟩ (.circular visit.origin.file.text raw) s₁

/-- A call comes to one that raises a fault. -/
def Fails (context : BundleContext) (call : Call) (fault : AuditFault) (s : BundleState) : Prop :=
  ∃ last, ReflTransGen (Calls context) call last ∧ Raises context last fault s

/-- A call fails with the calls it makes. -/
theorem Fails.of_calls {context : BundleContext} {call next : Call} {fault : AuditFault}
    {s : BundleState} (calls : Calls context call next) (fails : Fails context next fault s) :
    Fails context call fault s := by
  obtain ⟨last, reached, raises⟩ := fails
  exact ⟨last, .head calls reached, raises⟩

/-- A call fails with the fault it raises itself. -/
theorem Raises.fails {context : BundleContext} {call : Call} {fault : AuditFault}
    {s : BundleState} (raises : Raises context call fault s) : Fails context call fault s :=
  ⟨call, .refl, raises⟩

/-- What the relation says about the answer to a call. -/
def Accounts (context : BundleContext) (call : Call) :
    Except AuditFault Json × BundleState → Prop
  | (.ok value, s) => Walked context call.depth call.visit call.state value s
  | (.error fault, s) => Fails context call fault s

/-! ### Steps of a reference -/

/-- A destination is free exactly if the check of the walk finds nothing. -/
theorem free_iff {context : BundleContext} {s : BundleState} {source : Source}
    {destination : Pointer} :
    Free context s source destination ↔
      ((context.root.root.find? destination).isSome || s.relocations.any fun relocation =>
        relocation.source ≠ source && related relocation.destination destination) = false := by
  -- The check is false exactly if nothing is found and no relocation clashes.
  simp only [Bool.or_eq_false_iff, Option.isSome_eq_false_iff, Option.isNone_iff_eq_none,
    List.any_eq_false, Bool.and_eq_true, decide_eq_true_eq, not_and, Bool.not_eq_true]
  exact ⟨fun free => ⟨free.vacant, free.apart⟩, fun clear => ⟨clear.1, clear.2⟩⟩

/-- A free destination is reserved. -/
theorem runFrom_reserve {context : BundleContext} {s : BundleState} {source : Source}
    {destination : Pointer} (free : Free context s source destination) :
    runFrom (reserve context source destination) s = (.ok (), s.reserve source destination) := by
  simp only [reserve, runFrom_bind, runFrom_get, free_iff.mp free]
  rfl

/-- A destination that is not free is a collision. -/
theorem runFrom_reserve_taken {context : BundleContext} {s : BundleState} {source : Source}
    {destination : Pointer} (taken : ¬ Free context s source destination) :
    runFrom (reserve context source destination) s =
      (.error (.collision destination.fragment), s) := by
  rw [free_iff, Bool.not_eq_false] at taken
  simp only [reserve, runFrom_bind, runFrom_get, taken]
  rfl

/-- Moving a node is reserving, walking and filling in. -/
theorem runFrom_relocate {context : BundleContext} {follow : Follow} {source : Source}
    {node : Node} {destination : Pointer} {s : BundleState}
    (free : Free context s source destination) :
    runFrom (relocate context follow source node destination) s =
      match runFrom (follow node.toJson ⟨source.file, destination, []⟩)
        (s.reserve source destination) with
      | (.ok content, t) => (.ok (), t.fill source content)
      | (.error fault, t) => (.error fault, t) := by
  -- What remains behind the walk of the content is to fill it in.
  simp only [relocate, runFrom_bind, runFrom_reserve free]
  cases runFrom (follow node.toJson ⟨source.file, destination, []⟩)
    (s.reserve source destination) with
  | mk answer t => cases answer <;> rfl

/-- A node is moved if its content is walked. -/
theorem runFrom_relocate_ok {context : BundleContext} {follow : Follow} {source : Source}
    {node : Node} {destination : Pointer} {content : Json} {s t : BundleState}
    (free : Free context s source destination)
    (walked : runFrom (follow node.toJson ⟨source.file, destination, []⟩)
      (s.reserve source destination) = (.ok content, t)) :
    runFrom (relocate context follow source node destination) s =
      (.ok (), t.fill source content) := by
  rw [runFrom_relocate free, walked]

/-- Inlining a node that is not being inlined is recording and walking. -/
theorem runFrom_inlined {follow : Follow} {source : Source} {node : Node} {raw : String}
    {site : Site} {s : BundleState} (fresh : source ∉ site.inlining) :
    runFrom (inlined follow source node raw site) s =
      runFrom (follow node.toJson ⟨source.file, site.pointer, source :: site.inlining⟩)
        (s.record site.pointer source) := by
  rw [inlined, if_neg fresh, runFrom_bind]
  rfl

/-- A reference that leads into another file is looked up, and moved or inlined if it is new. -/
theorem Leaves.runFrom_answerReference {context : BundleContext} {visit : Visit} {raw : String}
    {s s₁ : BundleState} {version : ApiVersion} {target : Document} {node : Node}
    (leaves : Leaves context visit.origin.file raw s version target node s₁) (follow : Follow) :
    runFrom (answerReference context follow raw visit.place) s =
      runFrom
        (match s₁.known? (sourceIn target raw) with
        | some relocation => pure (.pointing relocation.destination)
        | none =>
          match destination? context version (Reference.parse raw) target.path visit.site with
          | some destination => do
            relocate context follow (sourceIn target raw) node destination
            pure (.pointing destination)
          | none => do
            let content ← inlined follow (sourceIn target raw) node raw visit.place
            pure (.replaced content)) s₁ := by
  unfold answerReference
  -- Neither the kind, nor the pointer, nor the file, nor the version stops the reference.
  simp only [if_neg leaves.near]
  refine (runFrom_bind_ok leaves.loaded).trans ?_
  simp only [leaves.found, if_neg leaves.foreign, leaves.version]
  exact runFrom_bind_ok (runFrom_get s₁)

/-- A reference that leads into the root file stays or is rewritten. -/
theorem Reads.runFrom_answerReference {context : BundleContext} {visit : Visit} {raw : String}
    {s s₁ : BundleState} {target : Document} {node : Node}
    (reads : Reads context visit.origin.file raw s target node s₁)
    (home : target.path = context.root.path) (follow : Follow) :
    runFrom (answerReference context follow raw visit.place) s =
      (.ok (if visit.origin.file = context.root.path then .kept
        else .pointing (Reference.parse raw).pointer), s₁) := by
  -- Once the target is loaded and found, only the file of the reference decides.
  unfold answerReference
  simp only [if_neg reads.near]
  refine (runFrom_bind_ok reads.loaded).trans ?_
  simp only [reads.found, if_pos home]
  change runFrom (if visit.origin.file = context.root.path then pure Answer.kept
    else pure (Answer.pointing (Reference.parse raw).pointer)) s₁ = _
  by_cases inside : visit.origin.file = context.root.path <;> simp [inside]

/-- What the relation says about the answer to a reference. -/
def AccountsReference (context : BundleContext) (depth : Nat) (visit : Visit) (raw : String)
    (s : BundleState) : Except AuditFault Answer × BundleState → Prop
  | (.ok answer, t) => Answered context depth visit raw s answer t
  | (.error fault, t) => Fails context ⟨depth + 1, visit, s⟩ fault t

section

variable {context : BundleContext} {depth : Nat} {visit : Visit} {raw : String}
  {s s₁ : BundleState} {version : ApiVersion} {target : Document} {node : Node}

/-- If the relation accounts for content that is moved, it accounts for the reference to it. -/
theorem relocate_accounts {destination : Pointer}
    (follows : ∀ visit s, Accounts context ⟨depth, visit, s⟩ (Call.run context ⟨depth, visit, s⟩))
    (refers : visit.node.reference? = some raw)
    (leaves : Leaves context visit.origin.file raw s version target node s₁)
    (new : s₁.known? (sourceIn target raw) = none)
    (chosen : destination? context version (Reference.parse raw) target.path visit.site =
      some destination) :
    AccountsReference context depth visit raw s (runFrom (do
      relocate context (walkWithin context depth) (sourceIn target raw) node destination
      pure (.pointing destination)) s₁) := by
  rw [runFrom_bind]
  -- The destination is free, so the content is walked, or this is a collision.
  by_cases free : Free context s₁ (sourceIn target raw) destination
  · rw [runFrom_relocate free]
    -- The content is walked with the destination reserved.
    have content := follows ⟨sourceIn target raw, node, destination, []⟩
      (s₁.reserve (sourceIn target raw) destination)
    unfold Call.run Visit.place at content
    dsimp only at content
    revert content
    cases runFrom (walkWithin context depth node.toJson
      ⟨(sourceIn target raw).file, destination, []⟩)
      (s₁.reserve (sourceIn target raw) destination) with
    | mk answer t =>
      intro content
      cases answer with
      | ok value => exact Answered.moved leaves new chosen free content
      | error fault => exact Fails.of_calls (Calls.moved refers leaves new chosen free) content
  · have collides : runFrom (relocate context (walkWithin context depth) (sourceIn target raw)
        node destination) s₁ = (.error (.collision destination.fragment), s₁) :=
      runFrom_bind_error (runFrom_reserve_taken free)
    rw [collides]
    exact (Raises.collision refers leaves new chosen free).fails

/-- If the relation accounts for content that is inlined, it accounts for the reference to it. -/
theorem inlined_accounts
    (follows : ∀ visit s, Accounts context ⟨depth, visit, s⟩ (Call.run context ⟨depth, visit, s⟩))
    (refers : visit.node.reference? = some raw)
    (leaves : Leaves context visit.origin.file raw s version target node s₁)
    (new : s₁.known? (sourceIn target raw) = none)
    (homeless : destination? context version (Reference.parse raw) target.path visit.site =
      none) :
    AccountsReference context depth visit raw s (runFrom (do
      let content ← inlined (walkWithin context depth) (sourceIn target raw) node raw visit.place
      pure (.replaced content)) s₁) := by
  -- Content inside of itself is circular; any other content is walked.
  by_cases again : sourceIn target raw ∈ visit.inlining
  · rw [runFrom_bind, inlined, if_pos (show sourceIn target raw ∈ visit.place.inlining from again)]
    exact (Raises.circular refers leaves new homeless again).fails
  · -- The content is walked where the reference stands.
    have content : Accounts context
        ⟨depth, ⟨sourceIn target raw, node, visit.site, sourceIn target raw :: visit.inlining⟩,
          s₁.record visit.site (sourceIn target raw)⟩
        (runFrom (inlined (walkWithin context depth) (sourceIn target raw) node raw visit.place)
          s₁) := by
      rw [runFrom_inlined (show sourceIn target raw ∉ visit.place.inlining from again)]
      exact follows _ _
    refine runFrom_bind_of content ?_ ?_
    · intro value t walked
      exact Answered.replaced leaves new homeless again walked
    · intro fault t failed
      exact Fails.of_calls (Calls.replaced refers leaves new homeless again) failed

/-- If the relation accounts for the content that references lead to, it accounts for what
references are answered with. -/
theorem answerReference_accounts
    (follows : ∀ visit s, Accounts context ⟨depth, visit, s⟩ (Call.run context ⟨depth, visit, s⟩))
    (refers : visit.node.reference? = some raw) (s : BundleState) :
    AccountsReference context depth visit raw s
      (runFrom (answerReference context (walkWithin context depth) raw visit.place) s) := by
  unfold answerReference
  -- The checks of the walk in turn: each raises its fault or leads to the next one.
  by_cases far : (Reference.parse raw).kind = .remote
  · simp only [far, if_true, runFrom_throw]
    exact (Raises.remote refers far).fails
  simp only [far, if_false, runFrom_bind]
  cases loaded : runFrom (loadTarget context (Reference.parse raw) visit.place.file) s with
  | mk answered s₁ =>
    cases answered with
    | error fault => exact (Raises.unread refers far loaded).fails
    | ok target =>
      dsimp only
      cases found : target.root.find? (Reference.parse raw).pointer with
      | none => exact (Raises.missing refers far loaded found).fails
      | some node =>
        have reads : Reads context visit.origin.file raw s target node s₁ := ⟨far, loaded, found⟩
        dsimp only
        by_cases home : target.path = context.root.path
        · -- The root file is in the bundle already.
          rw [if_pos home]
          by_cases inside : visit.place.file = context.root.path
          · rw [if_pos inside]
            exact Answered.kept reads home inside
          · rw [if_neg inside]
            exact Answered.rooted reads home inside
        · rw [if_neg home]
          cases known : context.version with
          | none => exact (Raises.unsupported refers reads home known).fails
          | some version =>
            have leaves : Leaves context visit.origin.file raw s version target node s₁ :=
              { reads with foreign := home, version := known }
            simp only [runFrom_bind, runFrom_get]
            change AccountsReference context depth visit raw s (runFrom
              (match s₁.known? (sourceIn target raw) with
              | some relocation => pure (.pointing relocation.destination)
              | none => _) s₁)
            -- A known source is reused; a new one is moved or inlined.
            cases relocated : s₁.known? (sourceIn target raw) with
            | some relocation => exact Answered.reused leaves relocated
            | none =>
              dsimp only
              cases chosen : destination? context version (Reference.parse raw) target.path
                  visit.place.pointer with
              | some destination => exact relocate_accounts follows refers leaves relocated chosen
              | none => exact inlined_accounts follows refers leaves relocated chosen

end

/-! ### Steps of a node -/

/-- Children as members without positions. -/
def plainMembers (children : List (String × Node)) : List (String × Json) :=
  children.map fun child => (child.1, child.2.toJson)

/-- The items of an array are walked like members under the segments of their indices. -/
theorem runFrom_walkItems (context : BundleContext) (follow : Follow) (site : Site)
    (items : List Node) (index : Nat) (s : BundleState) :
    runFrom (walkItems context follow index (Node.itemsToJson items) site) s =
      match runFrom
        (walkMembers context follow false (plainMembers (Node.indexed index items)) site) s with
      | (.ok members, t) => (.ok (members.map Prod.snd), t)
      | (.error fault, t) => (.error fault, t) := by
  -- By induction on the items, from the index of the first one on.
  induction items generalizing index s with
  | nil => rfl
  | cons item rest ih =>
    simp only [Node.itemsToJson, Node.indexed, plainMembers, List.map_cons, walkItems, walkMembers,
      Bool.false_and, Bool.false_eq_true, if_false, runFrom_bind]
    cases runFrom (walk context follow item.toJson (site.child (indexSegment index))) s with
    | mk first t =>
      cases first with
      | error fault => rfl
      | ok value =>
        -- The next item stands under the next index.
        dsimp only
        rw [ih (index + 1) t]
        unfold plainMembers
        cases runFrom (walkMembers context follow false _ site) t with
        | mk others u => cases others <;> rfl

/-- What the relation says about the answer to children. -/
def AccountsChildren (context : BundleContext) (depth : Nat) (visit : Visit) (beside : Bool)
    (children : List (String × Node)) (s : BundleState) :
    Except AuditFault (List (String × Json)) × BundleState → Prop
  | (.ok members, t) => WalkedChildren context depth visit beside children s members t
  | (.error fault, t) =>
    ∃ before segment node behind members s₁, children = before ++ (segment, node) :: behind ∧
      (beside = true → segment ≠ referenceKey) ∧
      WalkedChildren context depth visit beside before s members s₁ ∧
      Fails context ⟨depth, visit.child segment node, s₁⟩ fault t

section

variable {context : BundleContext} {depth : Nat} {visit : Visit} {beside : Bool}
  {rest : List (String × Node)} {s s₁ : BundleState}

/-- A failure behind the member of a reference is one of all members. -/
theorem AccountsChildren.reference {node : Node}
    {fault : AuditFault} {t : BundleState}
    (failed : AccountsChildren context depth visit true rest s (.error fault, t)) :
    AccountsChildren context depth visit true ((referenceKey, node) :: rest) s
      (.error fault, t) := by
  -- The reference is one more child in front of the one that failed.
  obtain ⟨before, segment, inner, behind, members, s₂, split, other, earlier, fails⟩ := failed
  exact ⟨(referenceKey, node) :: before, segment, inner, behind, _, s₂, by simp [split], other,
    .reference earlier, fails⟩

/-- A failure behind a walked child is one of all children. -/
theorem AccountsChildren.cons {segment : String} {node : Node} {value : Json}
    {fault : AuditFault} {t : BundleState} (walks : beside = true → segment ≠ referenceKey)
    (walked : Walked context depth (visit.child segment node) s value s₁)
    (failed : AccountsChildren context depth visit beside rest s₁ (.error fault, t)) :
    AccountsChildren context depth visit beside ((segment, node) :: rest) s
      (.error fault, t) := by
  -- The walked child is one more in front of the one that failed.
  obtain ⟨before, below, inner, behind, members, s₂, split, other, earlier, fails⟩ := failed
  exact ⟨(segment, node) :: before, below, inner, behind, _, s₂, by simp [split], other,
    .cons walks walked earlier, fails⟩

/-- If the relation accounts for every child alone, it accounts for all of them in turn. -/
theorem walkMembers_accounts {children : List (String × Node)}
    (walks : ∀ child ∈ children, ∀ s,
      Accounts context ⟨depth + 1, visit.child child.1 child.2, s⟩
        (Call.run context ⟨depth + 1, visit.child child.1 child.2, s⟩))
    (beside : Bool) (s : BundleState) :
    AccountsChildren context (depth + 1) visit beside children s
      (runFrom (walkMembers context (walkWithin context depth) beside (plainMembers children)
        visit.place) s) := by
  -- By induction on the children, each of which is walked from where the former one has ended.
  induction children generalizing s with
  | nil => exact WalkedChildren.nil
  | cons child rest ih =>
    rcases child with ⟨segment, node⟩
    obtain ⟨first, others⟩ := List.forall_mem_cons.mp walks
    simp only [plainMembers, List.map_cons, walkMembers]
    by_cases skipped : beside = true ∧ segment = referenceKey
    · -- The reference itself stays as it is, and the others are walked from the same state.
      obtain ⟨rfl, rfl⟩ := skipped
      simp only [Bool.true_and, decide_true, if_true]
      rw [runFrom_bind_ok (runFrom_pure _ s)]
      refine runFrom_bind_of (ih others s) ?_ ?_
      · intro members t later
        exact WalkedChildren.reference later
      · intro fault t later
        exact later.reference
    · have walks : beside = true → segment ≠ referenceKey := fun b same => skipped ⟨b, same⟩
      have goes : (beside && decide (segment = referenceKey)) = false := by
        simpa using walks
      simp only [goes, Bool.false_eq_true, if_false]
      refine runFrom_bind_of (first s) ?_ ?_
      · -- The others are walked from the state in which this child ended.
        intro value s₁ here
        refine runFrom_bind_of (ih others s₁) ?_ ?_
        · intro members t later
          exact WalkedChildren.cons walks here later
        · intro fault t later
          exact later.cons walks here
      · intro fault t here
        exact ⟨[], segment, node, rest, [], s, rfl, walks, .nil, here⟩

end

/-- The walk of a scalar is its value. -/
theorem walk_scalar (context : BundleContext) (follow : Follow) (value : Scalar) (site : Site) :
    walk context follow value.toJson site = pure value.toJson := by
  cases value <;> rfl

/-- The walk of a mapping that is no reference is that of its members. -/
theorem walk_plain {context : BundleContext} {follow : Follow} {entries : List (Entry Node)}
    {span : Span} (plain : (Node.mapping entries span).reference? = none) (site : Site) :
    walk context follow (Node.mapping entries span).toJson site = (do
      let walked ← walkMembers context follow false
        (plainMembers (Node.mapping entries span).children) site
      pure (.object walked)) := by
  -- The walk asks the object without positions what the relation asks the mapping.
  rw [Node.reference?_mapping] at plain
  rw [Node.toJson, walk, plain, Node.entriesToJson_eq]
  rfl

/-- The walk of a reference is its answer, completed by its siblings. -/
theorem walk_reference {context : BundleContext} {follow : Follow} {entries : List (Entry Node)}
    {span : Span} {raw : String} (refers : (Node.mapping entries span).reference? = some raw)
    (site : Site) :
    walk context follow (Node.mapping entries span).toJson site =
      visitReference context follow raw site (walkMembers context follow true
        (plainMembers (Node.mapping entries span).children) site) := by
  rw [Node.reference?_mapping] at refers
  rw [Node.toJson, walk, refers, Node.entriesToJson_eq]
  rfl

/-- If the relation accounts for the content that references lead to and for the children of a
node, it accounts for the node. -/
theorem walk_accounts {context : BundleContext} {depth : Nat} {visit : Visit}
    (follows : ∀ visit s, Accounts context ⟨depth, visit, s⟩ (Call.run context ⟨depth, visit, s⟩))
    (walks : ∀ child ∈ visit.node.children, ∀ s,
      Accounts context ⟨depth + 1, visit.child child.1 child.2, s⟩
        (Call.run context ⟨depth + 1, visit.child child.1 child.2, s⟩))
    (s : BundleState) :
    Accounts context ⟨depth + 1, visit, s⟩ (Call.run context ⟨depth + 1, visit, s⟩) := by
  change Accounts context _ (runFrom (walk context (walkWithin context depth) visit.node.toJson
    visit.place) s)
  -- One case for each kind of node; a mapping may be a reference.
  cases shape : visit.node with
  | scalar value span =>
    rw [Node.toJson, walk_scalar]
    exact Walked.scalar shape
  | sequence items span =>
    -- The items are walked like members, and lose their segments again.
    have children := walkMembers_accounts walks false s
    rw [Node.toJson, walk, runFrom_bind, runFrom_walkItems _ _ _ items 0]
    rw [shape, Node.children] at children
    revert children
    cases runFrom (walkMembers context (walkWithin context depth) false
      (plainMembers (Node.indexed 0 items)) visit.place) s with
    | mk answer t =>
      intro children
      cases answer with
      | ok members => exact Walked.sequence shape (by rw [shape]; exact children)
      | error fault =>
        -- The first item whose walk fails is a child of the sequence.
        obtain ⟨before, segment, node, behind, members, s₁, split, _, earlier, fails⟩ := children
        have plain : visit.node.reference? = none := by rw [shape]; rfl
        have split : visit.node.children = before ++ (segment, node) :: behind := by
          rw [shape]; exact split
        exact Fails.of_calls (.child plain split earlier) fails
  | mapping entries span =>
    cases refers : visit.node.reference? with
    | none =>
      rw [walk_plain (shape ▸ refers), ← shape]
      refine runFrom_bind_of (walkMembers_accounts walks false s) ?_ ?_
      · intro members t children
        exact Walked.mapping shape refers children
      · -- The walk of the first child that fails is one of the calls.
        rintro fault t ⟨before, segment, node, behind, members, s₁, split, _, earlier, fails⟩
        exact Fails.of_calls (.child refers split earlier) fails
    | some raw =>
      rw [walk_reference (shape ▸ refers), visitReference, ← shape]
      refine runFrom_bind_of (answerReference_accounts follows refers s) ?_ ?_
      · -- The siblings are walked from the state in which the reference was answered.
        intro answer s₁ answered
        refine runFrom_bind_of (walkMembers_accounts walks true s₁) ?_ ?_
        · intro members t siblings
          exact Walked.reference refers answered siblings
        · rintro fault t ⟨before, segment, node, behind, members, s₂, split, other, earlier, fails⟩
          exact Fails.of_calls (.sibling refers answered split (other rfl) earlier) fails
      · intro fault t failed
        exact failed

/-- The relation accounts for every answer of the walk. -/
theorem run_accounts (context : BundleContext) (depth : Nat) (visit : Visit) (s : BundleState) :
    Accounts context ⟨depth, visit, s⟩ (Call.run context ⟨depth, visit, s⟩) := by
  -- By induction on the depth, which following a reference takes one from.
  induction depth generalizing visit s with
  | zero => exact Raises.exhausted.fails
  | succ depth follows =>
    rcases visit with ⟨origin, node, site, inlining⟩
    -- The children are walked with the same room, so the node is taken apart as well.
    induction node using Node.children_induction generalizing origin site s with
    | step node ih => exact walk_accounts follows (fun child member s => ih child member s _ _) s

mutual

/-- The walk answers what the relation says of a node. -/
theorem Walked.run {context : BundleContext} {depth : Nat} {visit : Visit} {s s' : BundleState}
    {value : Json} : Walked context depth visit s value s' →
      Call.run context ⟨depth, visit, s⟩ = (.ok value, s')
  -- Each case gives the equation of the walk for its kind of node.
  -- By recursion on the relation: each case is one branch of the walk, evaluated on what its
  -- premises answer.
  | .scalar shape => by
    simp only [Call.run, shape, Node.toJson, walkWithin, walk_scalar]
    rfl
  | .sequence shape children => by
    have ran := children.run _ rfl
    rw [shape, Node.children] at ran
    simp only [Call.run, shape, Node.toJson, walkWithin, walk, runFrom_bind,
      runFrom_walkItems _ _ _ _ 0, ran]
    rfl
  | .mapping shape plain children => by
    have ran := children.run _ rfl
    rw [shape] at ran plain
    simp only [Call.run, shape, walkWithin]
    rw [walk_plain plain, runFrom_bind_ok ran]
    rfl
  | .reference refers answered siblings => by
    -- First the reference is answered, then its siblings are walked.
    have first := answered.run
    have second := siblings.run _ rfl
    obtain ⟨entries, span, shape⟩ := Node.mapping_of_reference? refers
    rw [shape] at refers second
    simp only [Call.run, shape, walkWithin]
    rw [walk_reference refers, visitReference, runFrom_bind_ok first, runFrom_bind_ok second]
    rfl

/-- The walk answers what the relation says of a reference. -/
theorem Answered.run {context : BundleContext} {depth : Nat} {visit : Visit} {raw : String}
    {s s' : BundleState} {answer : Answer} : Answered context depth visit raw s answer s' →
      runFrom (answerReference context (walkWithin context depth) raw visit.place) s =
        (.ok answer, s')
  -- What justifies the answer are the checks that the walk makes before it.
  | .kept reads home inside => by rw [reads.runFrom_answerReference home, if_pos inside]
  | .rooted reads home outside => by rw [reads.runFrom_answerReference home, if_neg outside]
  | .reused leaves known => by
    rw [leaves.runFrom_answerReference, known]
    rfl
  | .moved leaves new chosen free walked => by
    -- The walk of the content is the middle of three steps.
    have content := walked.run
    rw [leaves.runFrom_answerReference, new]
    simp only [chosen]
    exact (runFrom_bind_ok (runFrom_relocate_ok free content)).trans (runFrom_pure _ _)
  | .replaced leaves new homeless fresh walked => by
    have content := walked.run
    rw [leaves.runFrom_answerReference, new]
    simp only [homeless]
    refine (runFrom_bind_ok ?_).trans (runFrom_pure _ _)
    exact (runFrom_inlined fresh).trans content

/-- The walk answers what the relation says of children. -/
theorem WalkedChildren.run {context : BundleContext} {depth : Nat} {visit : Visit}
    {beside : Bool} {children : List (String × Node)} {s s' : BundleState}
    {members : List (String × Json)} :
    WalkedChildren context depth visit beside children s members s' →
      ∀ below, depth = below + 1 →
        runFrom (walkMembers context (walkWithin context below) beside (plainMembers children)
          visit.place) s = (.ok members, s')
  | .nil => fun _ _ => rfl
  | .reference others => fun below room => by
    -- The member that makes the reference is passed on.
    have ran := others.run below room
    simp only [plainMembers, List.map_cons, walkMembers, Bool.true_and, decide_true, if_true]
    rw [runFrom_bind, runFrom_pure]
    exact (runFrom_bind_ok ran).trans (runFrom_pure _ _)
  | .cons walks walked others => fun below room => by
    have here := walked.run
    have ran := others.run below room
    subst room
    simp only [plainMembers, List.map_cons, walkMembers]
    rw [if_neg (by simpa using walks)]
    exact (runFrom_bind_ok here).trans ((runFrom_bind_ok ran).trans (runFrom_pure _ _))

end

end SpecTrace
