import SpecTrace.Proofs.Bundle.Contained
import SpecTrace.Proofs.Document.Nesting
import SpecTrace.Proofs.Document.Spans
import SpecTrace.Proofs.Workspace.Places

/-! Bundles of a single file. Where no reference leads to another file, a bundle is the root file as
it is. -/

namespace SpecTrace

open Relation

/-- A node is no reference, or it refers to a node of its own file. -/
def Workspace.Stays (workspace : Workspace) (file : FilePath) (node : Node) : Prop :=
  ∀ raw, node.reference? = some raw →
    ∃ pointer target, workspace.target? file raw = some (⟨file, pointer⟩, target)

/-- From one state to another, documents were read at most. -/
structure BundleState.OnlyReads (s t : BundleState) : Prop where
  relocations : t.relocations = s.relocations
  provenance : t.provenance = s.provenance

namespace BundleState.OnlyReads

variable {s t u : BundleState}

/-- Doing nothing reads nothing. -/
theorem refl (s : BundleState) : s.OnlyReads s :=
  ⟨rfl, rfl⟩

/-- Reading may go on. -/
theorem trans (first : s.OnlyReads t) (second : t.OnlyReads u) : s.OnlyReads u :=
  ⟨second.relocations.trans first.relocations, second.provenance.trans first.provenance⟩

end BundleState.OnlyReads

section

variable {context : BundleContext} {workspace : Workspace} {depth : Nat} {visit : Visit}
  {raw : String} {s s₁ : BundleState} {file : FilePath} {target : Document} {node : Node}

/-- Loading a document reads at most. -/
theorem Reads.onlyReads (reads : Reads context file raw s target node s₁) : s.OnlyReads s₁ := by
  rcases loadTarget_state reads.loaded with rfl | ⟨_, _, _, rfl⟩
  · exact .refl _
  · exact ⟨rfl, rfl⟩

/-- A reference with a target is read. -/
theorem exists_reads {source : Source} (seen : s.session.workspace context.tree = workspace)
    (leads : workspace.target? file raw = some (source, node)) :
    ∃ target s₁, Reads context file raw s target node s₁ ∧ sourceIn target raw = source := by
  simp only [Workspace.target?, Option.bind_eq_bind, Option.bind_eq_some_iff] at leads
  obtain ⟨names, named, place, resolved, inner, held, last⟩ := leads
  -- A remote reference would have no target.
  split at last
  · cases last
  · rename_i near
    cases last
    subst seen
    obtain ⟨target, stands, found⟩ := Option.bind_eq_some_iff.mp held
    have resolved : context.tree.resolve names = .ok place := toOption_eq_some.mp resolved
    -- The target stands in the files, so that a request for its document answers it.
    obtain ⟨after, asked, _⟩ := Session.document_of_place resolved stands
    refine ⟨target, { s with session := after },
      ⟨near, loadTarget_ok_iff.mpr ⟨names, after, named, asked, rfl⟩, found⟩, ?_⟩
    rw [sourceIn, Session.documentAt?_path stands]

/-- A reference that leaves the root file does not stay there. -/
theorem Leaves.not_stays {version : ApiVersion}
    (seen : s.session.workspace context.tree = workspace)
    (leaves : Leaves context context.root.path raw s version target node s₁)
    (refers : visit.node.reference? = some raw) :
    ¬workspace.Stays context.root.path visit.node := by
  intro stays
  obtain ⟨pointer, _, leads⟩ := stays raw refers
  -- The reference has one target, which would be in the root file and in another one.
  have other := leaves.target?
  rw [seen, leads, Option.some.injEq, Prod.mk.injEq] at other
  exact leaves.foreign (congrArg Origin.file other.1).symm

/-- What holds throughout a tree holds throughout what a child is the root of. -/
theorem Node.Throughout.child {P : Node → Prop} {node : Node} (holds : node.Throughout P)
    {segment : String} {child : Node} (known : (segment, child) ∈ node.children) :
    child.Throughout P :=
  fun place member => holds (segment :: place.1, place.2)
    (Node.mem_descendants_of_child known member)

/-- The items of a sequence are its members without their segments. -/
theorem values_plainMembers (items : List Node) (index : Nat) :
    (plainMembers (Node.indexed index items)).map Prod.snd = Node.itemsToJson items := by
  rw [plainMembers, List.map_map, Node.itemsToJson_eq_map]
  conv_rhs => rw [← Node.indexed_values index items, List.map_map]
  rfl

/-- Beside a reference, the key of references has a text. -/
theorem scalar_of_reference? (refers : visit.node.reference? = some raw)
    (distinct : visit.node.Distinct) {child : Node}
    (known : (referenceKey, child) ∈ visit.node.children) :
    ∃ span, child = .scalar (.string raw) span := by
  obtain ⟨entries, span, shape⟩ := Node.mapping_of_reference? refers
  -- The key occurs once, so this is the text that makes the reference.
  have found := distinct.lookup known
  rw [shape] at refers found
  unfold Node.reference? at refers
  rw [Node.get?_mapping] at refers
  rw [Node.children] at found
  rw [found] at refers
  split at refers
  · rename_i same
    cases refers
    cases same
    exact ⟨_, rfl⟩
  · cases refers

/-- In the root file, a reference that is answered stays as it is, if none leaves the file or none
may do so. -/
theorem Answered.stays {answer : Answer} (answered : Answered context depth visit raw s answer s₁)
    (seen : s.session.workspace context.tree = workspace)
    (inside : visit.origin.file = context.root.path) (refers : visit.node.reference? = some raw)
    (bound : context.version = none ∨ workspace.Stays context.root.path visit.node) :
    answer = .kept ∧ s.OnlyReads s₁ ∧ workspace.Stays context.root.path visit.node := by
  -- Without a version nothing leaves the root file, and what stays does not leave it either.
  have noLeave : ∀ {version target node s₁},
      ¬Leaves context visit.origin.file raw s version target node s₁ := by
    intro version target node s₁ leaves
    rw [inside] at leaves
    rcases bound with unknown | stays
    · have known := leaves.version
      rw [unknown] at known
      cases known
    · exact leaves.not_stays seen refers stays
  -- Only the first case keeps the reference in the root file.
  cases answered with
  | kept reads home _ =>
    refine ⟨rfl, reads.onlyReads, fun other refers' => ?_⟩
    rw [refers, Option.some.injEq] at refers'
    subst refers'
    have leads := reads.target?
    rw [seen, sourceIn, home, inside] at leads
    exact ⟨_, _, leads⟩
  | rooted _ _ outside => exact absurd inside outside
  | reused leaves _ => exact absurd leaves noLeave
  | moved leaves _ _ _ _ => exact absurd leaves noLeave
  | replaced leaves _ _ _ _ => exact absurd leaves noLeave

end

mutual

/-- In the root file, a walk changes nothing but what was read, if no reference leaves the file or
none may do so. -/
theorem Walked.stays {context : BundleContext} {workspace : Workspace} {depth : Nat}
    {visit : Visit} {s s' : BundleState} {value : Json} :
    Walked context depth visit s value s' → s.session.workspace context.tree = workspace →
      visit.origin.file = context.root.path → visit.node.Distinct →
      (context.version = none ∨ visit.node.Throughout (workspace.Stays context.root.path)) →
        value = visit.node.toJson ∧ s.OnlyReads s' ∧
          visit.node.Throughout (workspace.Stays context.root.path)
  -- Nodes other than references have no target to look at, only children.
  -- The recursion is that of the walk. In the root file a reference is kept as it was written, or
  -- it would leave the file.
  | .scalar shape, _, _, _, _ => by
    rw [shape]
    refine ⟨rfl, .refl _, Node.throughout_of_children ?_ (by simp [Node.children])⟩
    intro raw refers
    cases refers
  | .sequence shape children, seen, inside, distinct, bound => by
    obtain ⟨members, reads, below⟩ := children.stays seen inside (by simp)
      (fun child known => distinct.child known)
      (bound.imp_right fun stays child known => stays.child known)
    rw [shape] at members below ⊢
    refine ⟨?_, reads, Node.throughout_of_children ?_ below⟩
    · rw [members, Node.toJson, Node.children, values_plainMembers]
    · intro raw refers
      cases refers
  | .mapping shape plain children, seen, inside, distinct, bound => by
    obtain ⟨members, reads, below⟩ := children.stays seen inside (by simp)
      (fun child known => distinct.child known)
      (bound.imp_right fun stays child known => stays.child known)
    refine ⟨?_, reads, Node.throughout_of_children ?_ below⟩
    · rw [members, shape, Node.toJson, Node.entriesToJson_eq]
      rfl
    · intro raw refers
      rw [plain] at refers
      cases refers
  | .reference refers answered siblings, seen, inside, distinct, bound => by
    obtain ⟨rfl, read, here⟩ := answered.stays seen inside refers
      (bound.imp_right Node.Throughout.here)
    -- The member that makes the reference has no children.
    have text : ∀ child, (referenceKey, child) ∈ visit.node.children →
        child.Throughout (workspace.Stays context.root.path) := by
      intro child known
      obtain ⟨span, rfl⟩ := scalar_of_reference? refers distinct known
      refine Node.throughout_of_children ?_ (by simp [Node.children])
      intro raw refers
      cases refers
    obtain ⟨members, reads, below⟩ := siblings.stays (answered.steps.workspace.trans seen) inside
      (fun _ => text) (fun child known => distinct.child known)
      (bound.imp_right fun stays child known => stays.child known)
    obtain ⟨entries, span, shape⟩ := Node.mapping_of_reference? refers
    refine ⟨?_, read.trans reads, Node.throughout_of_children here below⟩
    rw [members, shape, Node.toJson, Node.entriesToJson_eq]
    rfl

/-- The children of such a walk are as they were. -/
theorem WalkedChildren.stays {context : BundleContext} {workspace : Workspace} {depth : Nat}
    {visit : Visit} {beside : Bool} {children : List (String × Node)} {s s' : BundleState}
    {members : List (String × Json)} :
    WalkedChildren context depth visit beside children s members s' →
      s.session.workspace context.tree = workspace →
      visit.origin.file = context.root.path →
      (beside = true → ∀ child, (referenceKey, child) ∈ children →
        child.Throughout (workspace.Stays context.root.path)) →
      (∀ child ∈ children, child.2.Distinct) →
      (context.version = none ∨
        ∀ child ∈ children, child.2.Throughout (workspace.Stays context.root.path)) →
        members = plainMembers children ∧ s.OnlyReads s' ∧
          ∀ child ∈ children, child.2.Throughout (workspace.Stays context.root.path)
  | .nil, _, _, _, _, _ => ⟨rfl, .refl _, by simp⟩
  -- The reference itself is not walked, but what it may hold is known.
  | .reference others, seen, inside, text, distinct, bound => by
    obtain ⟨rfl, reads, below⟩ := others.stays seen inside
      (fun _ child known => text rfl child (List.mem_cons_of_mem _ known))
      (List.forall_mem_cons.mp distinct).2
      (bound.imp_right fun stays => (List.forall_mem_cons.mp stays).2)
    exact ⟨rfl, reads, List.forall_mem_cons.mpr ⟨text rfl _ List.mem_cons_self, below⟩⟩
  | .cons _ walked others, seen, inside, text, distinct, bound => by
    obtain ⟨first, later⟩ := List.forall_mem_cons.mp distinct
    obtain ⟨rfl, read, here⟩ := walked.stays seen inside first
      (bound.imp_right fun stays => stays _ List.mem_cons_self)
    obtain ⟨rfl, reads, below⟩ := others.stays (walked.steps.workspace.trans seen) inside
      (fun beside child known => text beside child (List.mem_cons_of_mem _ known)) later
      (bound.imp_right fun stays => (List.forall_mem_cons.mp stays).2)
    exact ⟨rfl, read.trans reads, List.forall_mem_cons.mpr ⟨here, below⟩⟩

end

/-! ### Walks that cannot fail -/

/-- A call that walks a part of the root file, in which every reference stays in the file. -/
structure Call.AtHome (context : BundleContext) (workspace : Workspace) (call : Call) : Prop where
  room : 0 < call.depth
  inside : call.visit.origin.file = context.root.path
  seen : call.state.session.workspace context.tree = workspace
  stays : call.visit.node.Throughout (workspace.Stays context.root.path)

section

variable {context : BundleContext} {workspace : Workspace} {call next : Call}

/-- Calls stay at home. -/
theorem Call.AtHome.calls (home : call.AtHome context workspace) (calls : Calls context call next) :
    next.AtHome context workspace := by
  have seen := calls.steps.workspace.trans home.seen
  -- Children are walked in the same file, and no reference leads to content elsewhere.
  cases calls with
  | child _ split _ =>
    have known := split ▸ List.mem_append_cons_self
    exact ⟨home.room, home.inside, seen, home.stays.child known⟩
  | sibling _ _ split _ _ =>
    have known := split ▸ List.mem_append_cons_self
    exact ⟨home.room, home.inside, seen, home.stays.child known⟩
  | moved refers leaves _ _ _ =>
    exact absurd home.stays.here ((home.inside ▸ leaves).not_stays home.seen refers)
  | replaced refers leaves _ _ _ =>
    exact absurd home.stays.here ((home.inside ▸ leaves).not_stays home.seen refers)

/-- At home no fault is raised. -/
theorem Call.AtHome.raises_nothing (home : call.AtHome context workspace) {fault : AuditFault}
    {s : BundleState} : ¬Raises context call fault s := by
  intro raises
  -- Each reference is read, and leads to the root file.
  have reads : ∀ {raw}, call.visit.node.reference? = some raw → ∃ target node s₁,
      Reads context call.visit.origin.file raw call.state target node s₁ ∧
        target.path = context.root.path := by
    intro raw refers
    obtain ⟨pointer, node, leads⟩ := home.stays.here raw refers
    obtain ⟨target, s₁, reads, same⟩ := exists_reads home.seen leads
    rw [home.inside]
    exact ⟨target, node, s₁, reads, congrArg Origin.file same⟩
  -- Each fault contradicts that the reference leads to a node of the root file.
  cases raises with
  | exhausted => exact absurd home.room (Nat.lt_irrefl 0)
  | remote refers far =>
    obtain ⟨_, _, _, reads, _⟩ := reads refers
    exact reads.near far
  | unread refers _ failed =>
    obtain ⟨_, _, _, reads, _⟩ := reads refers
    have loaded := reads.loaded
    rw [failed] at loaded
    cases loaded
  | missing refers _ loaded absent =>
    obtain ⟨_, _, _, reads, _⟩ := reads refers
    have same := reads.loaded
    rw [loaded] at same
    cases same
    have found := reads.found
    rw [absent] at found
    cases found
  | unsupported refers other foreign _ =>
    obtain ⟨_, _, _, reads, path⟩ := reads refers
    have same := reads.loaded
    rw [other.loaded] at same
    cases same
    exact foreign path
  | collision refers leaves _ _ _ =>
    exact absurd home.stays.here ((home.inside ▸ leaves).not_stays home.seen refers)
  | circular refers leaves _ _ _ =>
    exact absurd home.stays.here ((home.inside ▸ leaves).not_stays home.seen refers)

/-- At home no walk fails. -/
theorem Call.AtHome.succeeds (home : call.AtHome context workspace) {fault : AuditFault}
    {s : BundleState} : ¬Fails context call fault s := by
  rintro ⟨last, reached, raises⟩
  -- All calls on the way stay at home.
  have there : last.AtHome context workspace := by
    clear raises
    induction reached with
    | refl => exact home
    | tail _ calls ih => exact ih.calls calls
  exact there.raises_nothing raises

end

namespace Bundle

variable {tree : FileTree} {path : List PathName} {session read : Session} {root : Document}
  {bundle : Bundle} {copied : Json} {s : BundleState}

/-- What is behind a bundle stays as it is, and so do the references in it. -/
theorem Made.kept (made : Made tree path session bundle root read copied s)
    (faithful : session.Faithful)
    (bound : ApiVersion.detect? root.value = none ∨
      root.root.Throughout ((session.workspace tree).Stays root.path)) :
    (bundle.document = root.value ∧ bundle.provenance = .empty) ∧
      root.root.Throughout ((session.workspace tree).Stays root.path) := by
  have seen := Session.document_workspace made.opened
  obtain ⟨rfl, reads, stays⟩ := made.walked.stays seen rfl (made.distinct faithful) bound
  have placed := made.placed
  -- Nothing was moved, so the copy is the document.
  rw [reads.relocations] at placed
  have copied : bundle.document = root.value := (Except.ok.inj placed).symm.trans root.valued.symm
  exact ⟨⟨copied, made.provenance.trans reads.provenance⟩, stays⟩

/-- There is a bundle, if all references stay in the file. -/
theorem exists_built (faithful : session.Faithful)
    (opened : runFrom (Session.document tree path) session = (.ok root, read))
    (stays : root.root.Throughout ((session.workspace tree).Stays root.path)) :
    ∃ bundle after, runFrom (build tree path) session = (.ok bundle, after) := by
  have seen := Session.document_workspace opened
  -- The walk begins at home, with room for one reference at least.
  have home : (start tree read root).AtHome (context tree root) (session.workspace tree) :=
    ⟨Nat.mul_pos (Nat.succ_pos _) (Nat.succ_pos _), rfl, seen, stays⟩
  have accounts : Accounts _ _ ((start tree read root).run (context tree root)) :=
    run_accounts (context tree root) (start tree read root).depth
      (start tree read root).visit (start tree read root).state
  rcases ran : (start tree read root).run (context tree root) with ⟨answer, s⟩
  rw [ran] at accounts
  cases answer with
  | error fault => exact absurd accounts home.succeeds
  | ok copied =>
    -- Nothing was moved, so nothing is to be placed.
    have walked : Walked _ _ _ _ copied s := accounts
    have distinct := (Session.documentAt?_faithful faithful
      (Session.document_answer opened).choose_spec.2).shape.2
    obtain ⟨_, reads, _⟩ := walked.stays seen rfl distinct (.inr stays)
    have placed : place copied s.relocations = .ok copied := by
      rw [reads.relocations]
      rfl
    exact ⟨_, _, build_of_placed opened ran placed⟩

/-- A root file is bundled as it is, if no reference leads to another file; so it is if its version is
unknown, as long as it is bundled at all. It is not if its version is unknown and a reference does not
stay in the file. If all of them stay, there is a bundle. -/
theorem single_files_are_kept (faithful : session.Faithful)
    (opened : runFrom (Session.document tree path) session = (.ok root, read)) :
    (∀ bundle after, runFrom (build tree path) session = (.ok bundle, after) →
      (ApiVersion.detect? root.value = none ∨
        root.root.Throughout ((session.workspace tree).Stays root.path)) →
        bundle.document = root.value ∧ bundle.provenance = .empty) ∧
    (ApiVersion.detect? root.value = none →
      ¬root.root.Throughout ((session.workspace tree).Stays root.path) →
        ∃ fault after, runFrom (build tree path) session = (.error fault, after)) ∧
    (root.root.Throughout ((session.workspace tree).Stays root.path) →
      ∃ bundle after, runFrom (build tree path) session = (.ok bundle, after)) := by
  refine ⟨?_, ?_, exists_built faithful opened⟩
  · intro bundle after built bound
    obtain ⟨copied, s, made⟩ := made_of_opened opened built
    exact (made.kept faithful bound).1
  · -- A bundle would show that every reference stays in the file.
    intro unknown leaves
    rcases built : runFrom (build tree path) session with ⟨answer, after⟩
    cases answer with
    | error fault => exact ⟨fault, after, rfl⟩
    | ok bundle =>
      obtain ⟨copied, s, made⟩ := made_of_opened opened built
      exact absurd (made.kept faithful (.inl unknown)).2 leaves

/-- A file without a version that refers to itself by its name, and one that refers to it. -/
def unversionedFiles : FileTree :=
  .directory
    [("own.yaml", .file (some "x:\n  $ref: own.yaml#/y\ny: [1]\n")),
      ("other.yaml", .file (some "x:\n  $ref: own.yaml#/y\n"))]

/-- The first file is kept, and the second one is refused. -/
theorem own_references_are_kept :
    (∃ root read bundle after,
      runFrom (Session.document unversionedFiles [.text "own.yaml"]) .empty = (.ok root, read) ∧
      runFrom (build unversionedFiles [.text "own.yaml"]) .empty = (.ok bundle, after) ∧
      bundle.document = root.value ∧ bundle.provenance = .empty) ∧
    ∃ fault after,
      runFrom (build unversionedFiles [.text "other.yaml"]) .empty = (.error fault, after) := by
  -- In the first file the reference spells the name of its own file, and in the second the name of
  -- another.
  constructor
  · obtain ⟨root, read, opened, version⟩ := exists_of_answers
      (show (runFrom (Session.document unversionedFiles [.text "own.yaml"]) .empty).1.toOption.any
        (fun root => decide (ApiVersion.detect? root.value = none)) = true by decide +kernel)
    obtain ⟨bundle, after, built⟩ := exists_of_isOk
      (show (runFrom (build unversionedFiles [.text "own.yaml"]) .empty).1.isOk = true by
        decide +kernel)
    obtain ⟨kept, _, _⟩ := single_files_are_kept Session.faithful_empty opened
    have same := kept bundle after built (.inl (of_decide_eq_true version))
    exact ⟨root, read, bundle, after, opened, built, same⟩
  · obtain ⟨root, read, opened, known⟩ := exists_of_answers
      (show (runFrom (Session.document unversionedFiles [.text "other.yaml"]) .empty).1.toOption.any
        (fun root => decide (ApiVersion.detect? root.value = none ∧ root.path = ["other.yaml"] ∧
          (root.root.find? ["x"]).bind Node.reference? = some "own.yaml#/y")) = true by
        decide +kernel)
    obtain ⟨version, path, refers⟩ := of_decide_eq_true known
    obtain ⟨node, held, refers⟩ := Option.bind_eq_some_iff.mp refers
    obtain ⟨_, refused, _⟩ := single_files_are_kept Session.faithful_empty opened
    refine refused version fun stays => ?_
    -- The reference has its target in the other file.
    obtain ⟨pointer, target, leads⟩ := stays _ (Node.mem_descendants_of_find? held) _ refers
    have foreign : ((Session.empty.workspace unversionedFiles).target? ["other.yaml"]
        "own.yaml#/y").map (fun target => target.1.file) = some ["own.yaml"] := by decide +kernel
    have different : (["other.yaml"] : FilePath) ≠ ["own.yaml"] := by decide
    rw [path] at leads
    rw [leads] at foreign
    exact different (Option.some.inj foreign)

end Bundle

end SpecTrace
