import Mathlib.Logic.Relation
import SpecTrace.Proofs.Bundle.Built
import SpecTrace.Proofs.Document.Keys
import SpecTrace.Proofs.Workspace.Sources

/-! The walk of a root file never runs out of room, and it reports a circle only where there is
one. What bounds it is how many sources may still be moved, and how many may still be inlined. -/

namespace SpecTrace

open Relation

/-- A reference at a node or below it targets another node. -/
def PointsInto (workspace : Workspace) (origin target : Source) : Prop :=
  ∃ suffix inner raw node, workspace.node? (origin.below suffix) = some inner ∧
    inner.reference? = some raw ∧ workspace.target? origin.file raw = some (target, node)

/-- In a faithful session, no node repeats a key. -/
theorem Session.distinct_of_node? {session : Session} (faithful : session.Faithful)
    {tree : FileTree} {source : Source} {node : Node}
    (named : (session.workspace tree).node? source = some node) : node.Distinct := by
  -- The node stands in a document that its own text makes.
  obtain ⟨document, found, leads⟩ := Option.bind_eq_some_iff.mp named
  exact (documentAt?_faithful faithful found).shape.2.find? leads

/-- Every source that has a destination names a node. -/
def Known (workspace : Workspace) (s : BundleState) : Prop :=
  ∀ source ∈ s.sources, ∃ node, workspace.node? source = some node

/-- A step reserves destinations for nodes only. -/
theorem BundleStep.known {context : BundleContext} {s t : BundleState} {workspace : Workspace}
    (step : BundleStep context s t) (seen : s.session.workspace context.tree = workspace)
    (known : Known workspace s) : Known workspace t := by
  -- Only reserving adds a source.
  cases step with
  | read _ => exact known
  | record _ _ => exact known
  | reserve named _ _ =>
    -- The new source named a node when its destination was reserved.
    rw [seen] at named
    intro source member
    simp only [BundleState.sources, BundleState.reserve, List.map_append, List.map_cons,
      List.map_nil, List.mem_append, List.mem_singleton] at member
    rcases member with old | rfl
    · exact known source old
    · exact ⟨_, named⟩
  | fill source content =>
    intro other member
    -- Filling in content adds no source.
    rw [sources_fill] at member
    exact known other member

/-- A run reserves destinations for nodes only. -/
theorem BundleSteps.known {context : BundleContext} {s t : BundleState} {workspace : Workspace}
    (steps : BundleSteps context s t) (seen : s.session.workspace context.tree = workspace)
    (known : Known workspace s) : Known workspace t := by
  induction steps with
  | refl => exact known
  -- The files look the same before every step.
  | tail before step ih => exact step.known ((BundleSteps.workspace before).trans seen) ih

/-- A reserved destination is one more. -/
theorem BundleState.sources_lt_reserve (s : BundleState) (source : Source)
    (destination : Pointer) : s.sources.length < (s.reserve source destination).sources.length := by
  simp [sources, reserve]

/-- A step takes no destination away. -/
theorem BundleStep.sources_le {context : BundleContext} {s t : BundleState}
    (step : BundleStep context s t) : s.sources.length ≤ t.sources.length := by
  -- Only reserving changes the number of sources.
  cases step with
  | read _ => exact Nat.le_refl _
  | record _ _ => exact Nat.le_refl _
  | reserve _ _ _ => exact Nat.le_of_lt (BundleState.sources_lt_reserve _ _ _)
  | fill source content => rw [sources_fill]

/-- A run takes no destination away. -/
theorem BundleSteps.sources_le {context : BundleContext} {s t : BundleState}
    (steps : BundleSteps context s t) : s.sources.length ≤ t.sources.length := by
  induction steps with
  | refl => exact Nat.le_refl _
  | tail _ step ih => exact Nat.le_trans ih step.sources_le

/-- A call stands at a node of the files. What is being inlined around it are nodes of their own,
from each of which references lead to the one that it stands in. -/
structure Standing (context : BundleContext) (workspace : Workspace) (call : Call) : Prop where
  seen : call.state.session.workspace context.tree = workspace
  separate : Separate context call.state
  known : Known workspace call.state
  named : workspace.node? call.visit.origin = some call.visit.node
  stack : call.visit.inlining.Nodup
  inside : ∀ source ∈ call.visit.inlining, (∃ node, workspace.node? source = some node) ∧
    ∃ top suffix, call.visit.origin = top.below suffix ∧
      ReflTransGen (PointsInto workspace) source top

/-- Below a child there is what is one segment further below. -/
theorem Origin.below_below (origin : Origin) (p q : Pointer) :
    (origin.below p).below q = origin.below (p ++ q) := by
  simp [Origin.below]

/-- What is below a node by nothing is the node. -/
@[simp] theorem Origin.below_nil (origin : Origin) : origin.below [] = origin := by
  simp [Origin.below]

section

variable {context : BundleContext} {workspace : Workspace}

/-- A child stands where its parent does, one segment further. -/
theorem Standing.child {depth below : Nat} {visit : Visit} {s t : BundleState} {segment : String}
    {node : Node} (standing : Standing context workspace ⟨depth, visit, s⟩)
    (distinct : visit.node.Distinct) (member : (segment, node) ∈ visit.node.children)
    (steps : BundleSteps context s t) :
    Standing context workspace ⟨below, visit.child segment node, t⟩ := by
  refine ⟨steps.workspace.trans standing.seen, steps.separate standing.separate,
    steps.known standing.seen standing.known, ?_, standing.stack, ?_⟩
  · -- The child is found below its parent.
    change workspace.node? (visit.origin.below [segment]) = some node
    rw [Workspace.node?_below, standing.named, Option.bind_some, Node.find?_cons,
      distinct.lookup member]
    rfl
  · intro source listed
    -- What is being inlined stays the same, and the call is one segment further below it.
    obtain ⟨named, top, suffix, inside, chain⟩ := standing.inside source listed
    refine ⟨named, top, suffix ++ [segment], ?_, chain⟩
    change visit.origin.below [segment] = _
    rw [inside, Origin.below_below]

/-- A reference of a standing call targets a node, and points there from wherever the call
stands in. -/
theorem Standing.points {depth : Nat} {visit : Visit} {s s₁ : BundleState} {raw : String}
    {version : ApiVersion} {target : Document} {node : Node}
    (standing : Standing context workspace ⟨depth, visit, s⟩)
    (refers : visit.node.reference? = some raw)
    (leaves : Leaves context visit.origin.file raw s version target node s₁) {top : Source}
    {suffix : Pointer} (inside : visit.origin = top.below suffix) :
    PointsInto workspace top (sourceIn target raw) := by
  have leads := leaves.target?
  rw [standing.seen] at leads
  have named := standing.named
  dsimp only at named
  -- The reference stands below the top by the suffix.
  rw [inside] at named leads
  exact ⟨suffix, visit.node, raw, node, named, refers, leads⟩

/-- Calls that a standing call makes stand as well. -/
theorem Calls.standing {call next : Call} (calls : Calls context call next)
    (standing : Standing context workspace call)
    (distinct : ∀ source node, workspace.node? source = some node → node.Distinct) :
    Standing context workspace next := by
  have keys := distinct _ _ standing.named
  have steps := calls.steps
  cases calls with
  | child plain split earlier =>
    -- Children are walked with what is inlined around their parent.
    exact standing.child keys (by rw [split]; simp) steps
  | sibling refers answered split other earlier =>
    exact standing.child keys (by rw [split]; simp) steps
  | moved refers leaves new chosen free =>
    -- Nothing is being inlined in content that moves.
    have leads := leaves.target?
    rw [standing.seen] at leads
    exact ⟨steps.workspace.trans standing.seen, steps.separate standing.separate,
      steps.known standing.seen standing.known, Workspace.node?_of_target? leads,
      List.nodup_nil, fun _ listed => absurd listed List.not_mem_nil⟩
  | replaced refers leaves new homeless fresh =>
    have leads := leaves.target?
    rw [standing.seen] at leads
    have named := Workspace.node?_of_target? leads
    -- The source is inlined now, and it was not before.
    refine ⟨steps.workspace.trans standing.seen, steps.separate standing.separate,
      steps.known standing.seen standing.known, named,
      List.nodup_cons.mpr ⟨fresh, standing.stack⟩, ?_⟩
    intro source listed
    rcases List.mem_cons.mp listed with rfl | listed
    · exact ⟨⟨_, named⟩, _, [], (Origin.below_nil _).symm, .refl⟩
    · -- The chain goes on to the content that takes the place of the reference.
      obtain ⟨there, top, suffix, inside, chain⟩ := standing.inside source listed
      exact ⟨there, _, [], (Origin.below_nil _).symm,
        chain.tail (standing.points refers leaves inside)⟩

/-- All calls that are reached from a standing call stand. -/
theorem Standing.reached {call last : Call} (standing : Standing context workspace call)
    (distinct : ∀ source node, workspace.node? source = some node → node.Distinct)
    (reached : ReflTransGen (Calls context) call last) : Standing context workspace last := by
  -- By induction on the calls.
  induction reached with
  | refl => exact standing
  | tail _ calls ih => exact calls.standing ih distinct

/-! ### Room -/

/-- How much deeper a call may still lead: each source that is not moved yet may be moved once, and
between two of these moves each may be inlined once. -/
def room (bound moved inlined : Nat) : Nat :=
  (bound - moved) * (bound + 1) + (bound - inlined)

/-- Moving more sources takes room away. -/
theorem room_le {bound moved grown : Nat} (grows : moved ≤ grown) (inlined : Nat) :
    room bound grown inlined ≤ room bound moved inlined :=
  Nat.add_le_add_right (Nat.mul_le_mul_right _ (Nat.sub_le_sub_left grows bound)) _

/-- Moving one source outweighs that inlining starts anew. -/
theorem room_moved {bound moved grown : Nat} (grows : moved < grown) (fits : grown ≤ bound)
    (inlined : Nat) : room bound grown 0 < room bound moved inlined := by
  -- One move is worth as much as inlining every source once more.
  have fewer : (bound - grown + 1) * (bound + 1) ≤ (bound - moved) * (bound + 1) :=
    Nat.mul_le_mul_right _ (by omega)
  rw [Nat.succ_mul] at fewer
  unfold room
  omega

/-- Inlining one source more takes room away. -/
theorem room_inlined {bound moved grown inlined : Nat} (grows : moved ≤ grown)
    (fits : inlined < bound) : room bound grown (inlined + 1) < room bound moved inlined := by
  -- Sources that were moved in between take away even more.
  have fewer : room bound grown inlined ≤ room bound moved inlined := room_le grows inlined
  unfold room at fewer ⊢
  omega

/-- The room of a call. -/
def Call.room (bound : Nat) (call : Call) : Nat :=
  SpecTrace.room bound call.state.sources.length call.visit.inlining.length

/-- No call has more sources or inlines more than there are nodes. -/
structure Bounded (bound : Nat) (call : Call) : Prop where
  sources : call.state.sources.length ≤ bound
  inlining : call.visit.inlining.length ≤ bound

/-- Room does not grow along calls, and it shrinks where depth is used up. -/
theorem Calls.room_lt {call next : Call} (calls : Calls context call next) {bound : Nat}
    (after : Bounded bound next) (enough : call.room bound < call.depth) :
    next.room bound < next.depth := by
  have grows := calls.steps.sources_le
  cases calls with
  -- Walking a child uses up no depth, so the room may stay the same.
  | child plain split earlier => exact Nat.lt_of_le_of_lt (room_le grows _) enough
  | sibling refers answered split other earlier =>
    exact Nat.lt_of_le_of_lt (room_le grows _) enough
  | moved refers leaves new chosen free =>
    -- Loading moves nothing, and reserving is one more move.
    have one := (loadTarget_steps leaves.loaded).sources_le
    exact Nat.lt_of_lt_of_le
      (room_moved (Nat.lt_of_le_of_lt one (BundleState.sources_lt_reserve _ _ _)) after.sources _)
      (Nat.le_of_lt_succ enough)
  | replaced refers leaves new homeless fresh =>
    exact Nat.lt_of_lt_of_le (room_inlined grows after.inlining) (Nat.le_of_lt_succ enough)

/-- A standing call has no more sources and inlines no more than there are nodes. -/
theorem Standing.bounded {session : Session} (faithful : session.Faithful) {call : Call}
    (standing : Standing context (session.workspace context.tree) call) :
    Bounded (context.tree.nodeBound + session.nodeBound) call :=
  ⟨Session.length_le_of_named faithful standing.separate.once standing.known,
    Session.length_le_of_named faithful standing.stack fun source listed =>
      (standing.inside source listed).1⟩

/-- Wherever a standing call with enough room leads, there is enough room. -/
theorem Standing.room_reached {session : Session} (faithful : session.Faithful)
    {call last : Call} (standing : Standing context (session.workspace context.tree) call)
    (enough : call.room (context.tree.nodeBound + session.nodeBound) < call.depth)
    (reached : ReflTransGen (Calls context) call last) :
    last.room (context.tree.nodeBound + session.nodeBound) < last.depth := by
  have distinct : ∀ source node, (session.workspace context.tree).node? source = some node →
      node.Distinct := fun _ _ named => Session.distinct_of_node? faithful named
  -- By induction on the calls, all of which stand at nodes.
  induction reached with
  | refl => exact enough
  | tail before calls ih =>
    have stands := standing.reached distinct (before.tail calls)
    exact calls.room_lt (stands.bounded faithful) ih

end

/-- A fault of reading is none of the walk itself. -/
theorem AuditFault.IsReading.other {fault : AuditFault} (reading : fault.IsReading) :
    fault ≠ .exhausted ∧ ∀ file reference, fault ≠ .circular file reference := by
  constructor
  · rintro rfl
    exact reading
  · rintro file reference rfl
    exact reading

/-- Only a call without depth is cut off. -/
theorem Raises.depth_of_exhausted {context : BundleContext} {call : Call} {s : BundleState}
    (raises : Raises context call .exhausted s) : call.depth = 0 := by
  cases raises with
  | exhausted => rfl
  -- Loading fails by a fault of reading, which this is not.
  | unread refers near failed => exact absurd rfl (loadTarget_fault failed).other.1

/-- A circle is reported at a reference to what is being inlined around it. -/
theorem Raises.again_of_circular {context : BundleContext} {call : Call} {s : BundleState}
    {file reference : String} (raises : Raises context call (.circular file reference) s) :
    ∃ raw version target node s₁, call.visit.node.reference? = some raw ∧
      Leaves context call.visit.origin.file raw call.state version target node s₁ ∧
      sourceIn target raw ∈ call.visit.inlining := by
  cases raises with
  | unread refers near failed => exact absurd rfl ((loadTarget_fault failed).other.2 _ _)
  | circular refers leaves new homeless again => exact ⟨_, _, _, _, _, refers, leaves, again⟩

/-- The call that a bundle begins with stands at the root of a file. -/
theorem standing_start {tree : FileTree} {path : List PathName} {session read : Session}
    {root : Document} (opened : runFrom (Session.document tree path) session = (.ok root, read)) :
    Standing (Bundle.context tree root) (read.workspace tree) (Bundle.start tree read root) := by
  -- Nothing is reserved or inlined at the beginning.
  refine ⟨rfl, separate_empty _ _, fun _ member => absurd member List.not_mem_nil, ?_,
    List.nodup_nil, fun _ listed => absurd listed List.not_mem_nil⟩
  obtain ⟨place, _, found⟩ := Session.document_answer opened
  have path := Session.documentAt?_path found
  subst path
  -- Reading the root file changed the document of no place.
  change ((read.documentAt? tree root.path).bind fun document => document.root.find? []) = _
  rw [Session.document_keeps opened, found]
  rfl

/-- The call that a bundle begins with has enough room. -/
theorem room_start (tree : FileTree) (session : Session) (root : Document) :
    (Bundle.start tree session root).room (tree.nodeBound + session.nodeBound) <
      (Bundle.start tree session root).depth := by
  change room (tree.nodeBound + session.nodeBound) 0 0 < walkDepth tree session
  unfold room walkDepth
  dsimp only
  -- With the number of nodes plus one as both factors, the product is larger.
  rw [Nat.sub_zero, Nat.succ_mul]
  omega

/-- The walk of a root file is never cut off. -/
theorem not_exhausted {tree : FileTree} {path : List PathName} {session read : Session}
    {root : Document} {s : BundleState} (faithful : session.Faithful)
    (opened : runFrom (Session.document tree path) session = (.ok root, read)) :
    ¬ Fails (Bundle.context tree root) (Bundle.start tree read root) .exhausted s := by
  -- The call that was cut off would have no depth, but it has room left.
  rintro ⟨last, reached, raises⟩
  have still := Session.document_faithful faithful opened
  -- From the first call on there is more depth than room.
  have enough := Standing.room_reached still (standing_start opened) (room_start tree read root)
    reached
  rw [raises.depth_of_exhausted] at enough
  exact Nat.not_lt_zero _ enough

/-- So its answer is not that it was cut off. -/
theorem run_ne_exhausted {tree : FileTree} {path : List PathName} {session read : Session}
    {root : Document} (faithful : session.Faithful)
    (opened : runFrom (Session.document tree path) session = (.ok root, read)) :
    ((Bundle.start tree read root).run (Bundle.context tree root)).1 ≠ .error .exhausted := by
  -- What a run answers is accounted for, and no account of the first call ends in exhaustion.
  intro exhausted
  have accounts : Accounts (Bundle.context tree root) (Bundle.start tree read root)
      ((Bundle.start tree read root).run (Bundle.context tree root)) := run_accounts _ _ _ _
  rcases ran : (Bundle.start tree read root).run (Bundle.context tree root) with ⟨answer, s⟩
  rw [ran] at exhausted accounts
  dsimp only at exhausted
  subst exhausted
  exact not_exhausted faithful opened accounts

/-- However its references run, a bundle is built or fails, and is never cut off. If it fails for a
circle, then some node has a chain of references that begins below it, goes on below each target
and ends at the node. -/
theorem build_terminates {tree : FileTree} {path : List PathName} {session : Session}
    (faithful : session.Faithful) :
    (∀ after, runFrom (Bundle.build tree path) session ≠ (.error .exhausted, after)) ∧
    ∀ file reference after,
      runFrom (Bundle.build tree path) session = (.error (.circular file reference), after) →
      ∃ source node, (session.workspace tree).node? source = some node ∧
        TransGen (PointsInto (session.workspace tree)) source source := by
  -- Reading and placing fail by other faults, so a call must have raised the fault.
  constructor
  · intro after failed
    rcases Bundle.build_error_cases failed with reading | ⟨_, collides⟩ | ⟨root, read, s, opened, fails⟩
    · exact reading
    · cases collides
    · exact not_exhausted faithful opened fails
  · intro file reference after failed
    rcases Bundle.build_error_cases failed with reading | ⟨_, collides⟩ | ⟨root, read, s, opened, fails⟩
    · exact reading.elim
    · cases collides
    · obtain ⟨last, reached, raises⟩ := fails
      have still := Session.document_faithful faithful opened
      have seen : read.workspace tree = session.workspace tree := by
        rw [Session.workspace, Session.workspace, Session.document_keeps opened]
      have standing := (standing_start opened).reached
        (fun _ _ named => Session.distinct_of_node? still named) reached
      rw [seen] at standing
      -- What is inlined again leads to the call, and the call leads back to it.
      obtain ⟨raw, version, target, node, s₁, refers, leaves, again⟩ := raises.again_of_circular
      obtain ⟨⟨there, named⟩, top, suffix, inside, chain⟩ := standing.inside _ again
      exact ⟨_, there, named, TransGen.tail' chain (standing.points refers leaves inside)⟩

/-- Two files, with content that refers to itself and has no place of its own. -/
def selfReference : FileTree :=
  .directory
    [("api.yaml", .file (some "openapi: 3.0.0\nx:\n  $ref: b.yaml#/y\n")),
      ("b.yaml", .file (some "y:\n  z:\n    $ref: '#/y'\n"))]

/-- Whether a run failed for a circle. -/
def failsForCircle (answer : Except AuditFault Bundle) : Bool :=
  match answer with
  | .error (.circular _ _) => true
  | _ => false

/-- Content that refers to itself is reported as a circle, and it is one. -/
theorem self_reference_is_a_circle : ∃ file reference after source node,
    runFrom (Bundle.build selfReference [.text "api.yaml"]) .empty =
      (.error (.circular file reference), after) ∧
    (Session.empty.workspace selfReference).node? source = some node ∧
    TransGen (PointsInto (Session.empty.workspace selfReference)) source source := by
  -- The run is evaluated only as far as its fault; the circle comes from the theorem.
  have fails : failsForCircle
      (runFrom (Bundle.build selfReference [.text "api.yaml"]) .empty).1 = true := by
    decide +kernel
  rcases ran : runFrom (Bundle.build selfReference [.text "api.yaml"]) .empty with ⟨answer, after⟩
  rw [ran] at fails
  unfold failsForCircle at fails
  dsimp only at fails
  split at fails
  · rename_i file reference
    obtain ⟨source, node, named, circle⟩ :=
      (build_terminates Session.faithful_empty).2 file reference after ran
    exact ⟨file, reference, after, source, node, rfl, named, circle⟩
  · cases fails

end SpecTrace
