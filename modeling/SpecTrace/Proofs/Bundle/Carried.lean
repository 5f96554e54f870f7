import SpecTrace.Proofs.Audit.Transparency
import SpecTrace.Proofs.Bundle.PlacedStates

/-! A workspace that lies at two directories: whatever a walk does at the first one, it does at the
second one, with the other directory in front of the files. So a bundle does not depend on the
directory in which the workspace lies. -/

namespace SpecTrace

/-- A workspace that can be carried around lies at two directories, and one of its files is
bundled. -/
structure Carried (workspace : FileTree) (tree other : FileTree) (first second : FilePath)
    (root : Document) : Prop where
  portable : workspace.Portable
  here : Lies workspace tree first
  there : Lies workspace other second
  held : Session.load workspace root.path = .ok root

/-- Two documents are one file of the workspace, at the two directories. -/
def Document.Across (workspace : FileTree) (first second : FilePath) (one other : Document) : Prop :=
  ∃ document, Session.load workspace document.path = .ok document ∧
    one = document.placed first ∧ other = document.placed second

/-- Two sources are one source of the workspace, at the two directories. -/
def Origin.Across (first second : FilePath) (one other : Origin) : Prop :=
  ∃ origin : Origin, one = origin.placed first ∧ other = origin.placed second

/-- Two visits come to one node of the workspace, at the two directories. -/
def Visit.Across (workspace : FileTree) (first second : FilePath) (one other : Visit) : Prop :=
  ∃ visit : Visit, (Session.empty.workspace workspace).node? visit.origin = some visit.node ∧
    one = visit.placed first ∧ other = visit.placed second

/-- Two states are one state of bundling a file of the workspace, at the two directories. -/
def BundleState.Across (workspace : FileTree) (first second : FilePath) (s t : BundleState) : Prop :=
  ∃ state : BundleState, state.session.Current workspace ∧ s = state.placed first ∧
    t = state.placed second

/-- A reference with a document part that is not remote is one to a file. -/
theorem Reference.kind_relative {raw : String} (near : (Reference.parse raw).kind ≠ .remote)
    (elsewhere : (Reference.parse raw).document ≠ "") : (Reference.parse raw).kind = .relative := by
  unfold Reference.parse at near elsewhere ⊢
  dsimp only at near elsewhere ⊢
  -- By what makes the kind: an empty document part, a remote scheme, or neither.
  split
  · rename_i empty
    rw [List.isEmpty_iff.mp empty] at elsewhere
    exact absurd rfl elsewhere
  · rename_i filled
    rw [if_neg filled] at near
    split
    · rename_i remote
      rw [if_pos remote] at near
      exact absurd rfl near
    · rfl

section

variable {workspace tree other : FileTree} {first second directory : FilePath} {root : Document}
  {visit visit' : Visit} {s t s₁ : BundleState} {raw : String} {target : Document} {node : Node}

/-- Loading at a directory asks the workspace for the file that the reference names inside. -/
theorem loadTarget_placed (lies : Lies workspace tree directory) (portable : workspace.Portable)
    {referrer : FilePath} (plain : referrer.Plain) (some_name : referrer ≠ []) {reference : Reference}
    (refers : reference.document ≠ "" → workspace.Refers referrer reference.document)
    (top : Document) (state : BundleState) :
    runFrom (loadTarget (Bundle.context tree top) reference (directory ++ referrer))
        (state.placed directory) = (.ok target, s₁) ↔
      ∃ document read, runFrom (Session.document workspace
          (Reference.namesInside referrer reference.document)) state.session = (.ok document, read) ∧
        target = document.placed directory ∧
        s₁ = BundleState.placed directory { state with session := read } := by
  obtain ⟨path, named, same⟩ := lies.names? portable plain some_name refers
  have answers := fun after => @Session.document_placed_iff _ _ _ lies.toPlaced portable.proper
    portable.isDirectory _ _ same state.session target after
  rw [loadTarget_ok_iff]
  -- Either way the request is the one for the path that the reference names.
  constructor
  · rintro ⟨names, session, named', asked, rfl⟩
    cases named.symm.trans named'
    obtain ⟨document, read, found, rfl, rfl⟩ := (answers _).mp asked
    exact ⟨document, read, found, rfl, rfl⟩
  · rintro ⟨document, read, found, same_target, rfl⟩
    exact ⟨path, _, named, (answers _).mpr ⟨document, read, found, same_target, rfl⟩, rfl⟩

/-- The file of a node is a plain place of the workspace. -/
theorem FileTree.Portable.plain_of_node? (portable : workspace.Portable) {origin : Origin}
    (named : (Session.empty.workspace workspace).node? origin = some node) :
    origin.file.Plain ∧ origin.file ≠ [] := by
  obtain ⟨document, found, _⟩ := Option.bind_eq_some_iff.mp named
  -- The node is one of a document, and the document is what the file holds.
  cases held : Session.load workspace origin.file with
  | ok file => exact portable.plain held
  | error fault =>
    change (Session.load workspace origin.file).toOption = some document at found
    rw [held] at found
    cases found

/-- A reference that is read at one directory is read at the other one. -/
theorem Reads.across (carried : Carried workspace tree other first second root)
    (visits : Visit.Across workspace first second visit visit')
    (states : BundleState.Across workspace first second s t)
    (refers : visit.node.reference? = some raw)
    (reads : Reads (Bundle.context tree (root.placed first)) visit.origin.file raw s target node s₁) :
    ∃ target' t₁, Reads (Bundle.context other (root.placed second)) visit'.origin.file raw t target'
        node t₁ ∧ Document.Across workspace first second target target' ∧
      BundleState.Across workspace first second s₁ t₁ := by
  obtain ⟨visit, named, rfl, rfl⟩ := visits
  obtain ⟨state, current, rfl, rfl⟩ := states
  obtain ⟨near, loaded, found⟩ := reads
  -- The reference is one of the workspace, which says where it leads.
  obtain ⟨plain, some_name⟩ := carried.portable.plain_of_node? named
  have further : (Reference.parse raw).document ≠ "" →
      workspace.Refers visit.origin.file (Reference.parse raw).document := by
    intro elsewhere
    exact ⟨visit.origin.pointer, visit.node, raw, named, refers,
      Reference.kind_relative near elsewhere, rfl⟩
  obtain ⟨document, read, asked, rfl, rfl⟩ :=
    (loadTarget_placed carried.here carried.portable plain some_name further _ state).mp loaded
  -- The same request answers at the other directory.
  have loaded' := (loadTarget_placed carried.there carried.portable plain some_name further
    (root.placed second) state).mpr ⟨document, read, asked, rfl, rfl⟩
  -- In a current session, the answer is what the file holds.
  obtain ⟨held, kept⟩ := current.loads asked
  exact ⟨document.placed second, _, ⟨near, loaded', found⟩, ⟨document, held, rfl, rfl⟩,
    ⟨{ state with session := read }, kept, rfl, rfl⟩⟩

/-- The root file is reached at both directories or at neither. -/
theorem Document.Across.home {one two : Document}
    (documents : Document.Across workspace first second one two) :
    one.path = (root.placed first).path ↔ two.path = (root.placed second).path := by
  obtain ⟨document, _, rfl, rfl⟩ := documents
  simp [Document.placed]

/-- A visit takes place in the root file at both directories or at neither. -/
theorem Visit.Across.home (visits : Visit.Across workspace first second visit visit') :
    visit.origin.file = (root.placed first).path ↔ visit'.origin.file = (root.placed second).path := by
  obtain ⟨visit, _, rfl, rfl⟩ := visits
  simp [Document.placed, Visit.placed, Origin.placed]

/-- Visits of one node have the same node and the same site. -/
theorem Visit.Across.same (visits : Visit.Across workspace first second visit visit') :
    visit'.node = visit.node ∧ visit'.site = visit.site := by
  obtain ⟨visit, _, rfl, rfl⟩ := visits
  exact ⟨rfl, rfl⟩

/-- What a reference names in two documents is one source. -/
theorem Document.Across.sourceIn {one two : Document}
    (documents : Document.Across workspace first second one two) (raw : String) :
    Origin.Across first second (sourceIn one raw) (sourceIn two raw) := by
  obtain ⟨document, _, rfl, rfl⟩ := documents
  exact ⟨⟨document.path, (Reference.parse raw).pointer⟩, rfl, rfl⟩

/-- A reference that leaves the root file at one directory leaves it at the other one. -/
theorem Leaves.across (carried : Carried workspace tree other first second root)
    (visits : Visit.Across workspace first second visit visit')
    (states : BundleState.Across workspace first second s t)
    (refers : visit.node.reference? = some raw) {version : ApiVersion}
    (leaves : Leaves (Bundle.context tree (root.placed first)) visit.origin.file raw s version target
      node s₁) :
    ∃ target' t₁, Leaves (Bundle.context other (root.placed second)) visit'.origin.file raw t version
        target' node t₁ ∧ Document.Across workspace first second target target' ∧
      BundleState.Across workspace first second s₁ t₁ := by
  obtain ⟨target', t₁, reads, documents, after⟩ := leaves.toReads.across carried visits states refers
  exact ⟨target', t₁, ⟨reads, fun home => leaves.foreign (documents.home.mpr home), leaves.version⟩,
    documents, after⟩

/-- Where a reference is moved to does not depend on the directory. -/
theorem Carried.destination? (carried : Carried workspace tree other first second root)
    {one two : Document} (documents : Document.Across workspace first second one two)
    (version : ApiVersion) (reference : Reference) (site : Pointer) :
    SpecTrace.destination? (Bundle.context tree (root.placed first)) version reference one.path site =
      SpecTrace.destination? (Bundle.context other (root.placed second)) version reference two.path
        site := by
  obtain ⟨document, held, rfl, rfl⟩ := documents
  obtain ⟨plain, some_name⟩ := carried.portable.plain carried.held
  have target := (carried.portable.plain held).1
  -- Both destinations are the one that the workspace alone would give.
  exact (@destination?_placed first workspace tree root document.path carried.here.plain plain target
    some_name version reference site).trans
    (@destination?_placed second workspace other root document.path carried.there.plain plain target
      some_name version reference site).symm

namespace BundleState.Across

variable {source source' : Source}

/-- A source has a relocation in both states or in neither, and it has the same destination. -/
theorem known? (states : BundleState.Across workspace first second s t)
    (sources : Origin.Across first second source source') :
    (t.known? source').map Relocation.destination = (s.known? source).map Relocation.destination := by
  obtain ⟨state, _, rfl, rfl⟩ := states
  obtain ⟨source, rfl, rfl⟩ := sources
  rw [BundleState.known?_placed, BundleState.known?_placed, Option.map_map, Option.map_map]
  rfl

/-- A destination is free in both states or in neither. -/
theorem free (states : BundleState.Across workspace first second s t)
    (sources : Origin.Across first second source source') {destination : Pointer}
    (free : Free (Bundle.context tree (root.placed first)) s source destination) :
    Free (Bundle.context other (root.placed second)) t source' destination := by
  -- Both states are placed copies of one state, and a destination is free in a placed copy just if
  -- it is in that state.
  obtain ⟨state, _, rfl, rfl⟩ := states
  obtain ⟨source, rfl, rfl⟩ := sources
  have alone : Free (Bundle.context workspace root) state source destination := free_placed.mp free
  exact free_placed.mpr alone

/-- Reserving a destination in both states keeps them one. -/
theorem reserve (states : BundleState.Across workspace first second s t)
    (sources : Origin.Across first second source source') (destination : Pointer) :
    BundleState.Across workspace first second (s.reserve source destination)
      (t.reserve source' destination) := by
  -- The state behind both takes the step once, and placing it comes to the same before and after.
  obtain ⟨state, current, rfl, rfl⟩ := states
  obtain ⟨source, rfl, rfl⟩ := sources
  exact ⟨state.reserve source destination, current, (BundleState.reserve_placed _ _ _).symm,
    (BundleState.reserve_placed _ _ _).symm⟩

/-- Recording an origin in both states keeps them one. -/
theorem record (states : BundleState.Across workspace first second s t)
    (sources : Origin.Across first second source source') (pointer : Pointer) :
    BundleState.Across workspace first second (s.record pointer source)
      (t.record pointer source') := by
  -- The state behind both takes the step once, and placing it comes to the same before and after.
  obtain ⟨state, current, rfl, rfl⟩ := states
  obtain ⟨source, rfl, rfl⟩ := sources
  exact ⟨state.record pointer source, current, (BundleState.record_placed _ _ _).symm,
    (BundleState.record_placed _ _ _).symm⟩

/-- Filling in content in both states keeps them one. -/
theorem fill (states : BundleState.Across workspace first second s t)
    (sources : Origin.Across first second source source') (content : Json) :
    BundleState.Across workspace first second (s.fill source content) (t.fill source' content) := by
  obtain ⟨state, current, rfl, rfl⟩ := states
  obtain ⟨source, rfl, rfl⟩ := sources
  exact ⟨state.fill source content, current, (BundleState.fill_placed _ _ _).symm,
    (BundleState.fill_placed _ _ _).symm⟩

end BundleState.Across

/-- The child of one node is one node. -/
theorem Visit.Across.child (visits : Visit.Across workspace first second visit visit')
    {segment : String} {child : Node} (member : (segment, child) ∈ visit.node.children) :
    Visit.Across workspace first second (visit.child segment child) (visit'.child segment child) := by
  obtain ⟨visit, named, rfl, rfl⟩ := visits
  refine ⟨visit.child segment child, ?_, rfl, rfl⟩
  -- Keys do not repeat, so the child is the one that its segment names.
  have distinct := Session.distinct_of_node? Session.faithful_empty named
  have below := distinct.lookup member
  rw [Visit.child, Workspace.node?_below, named, Option.bind_some, Node.find?_cons, below]
  rfl

/-- The node that a reference leads to is one node, wherever its copy goes. -/
theorem Document.Across.visits {one two : Document}
    (documents : Document.Across workspace first second one two)
    (found : one.root.find? (Reference.parse raw).pointer = some node) (site : Pointer)
    {inlining inlining' : List Source}
    (same : ∃ sources : List Source, inlining = sources.map (·.placed first) ∧
      inlining' = sources.map (·.placed second)) :
    Visit.Across workspace first second ⟨SpecTrace.sourceIn one raw, node, site, inlining⟩
      ⟨SpecTrace.sourceIn two raw, node, site, inlining'⟩ := by
  -- The visit on the other side is the visit on this side with its sources placed.
  obtain ⟨document, held, rfl, rfl⟩ := documents
  obtain ⟨sources, rfl, rfl⟩ := same
  refine ⟨⟨⟨document.path, (Reference.parse raw).pointer⟩, node, site, sources⟩, ?_, rfl, rfl⟩
  exact (Session.node?_of_load held _).trans found

end

mutual

/-- A node that is walked at one directory becomes the same value at the other one. -/
theorem Walked.across {workspace tree other : FileTree} {first second : FilePath} {root : Document}
    (carried : Carried workspace tree other first second root) {depth : Nat} {visit : Visit}
    {s s' : BundleState} {value : Json} :
    Walked (Bundle.context tree (root.placed first)) depth visit s value s' →
    ∀ ⦃visit' t⦄, Visit.Across workspace first second visit visit' →
      BundleState.Across workspace first second s t →
      ∃ t', Walked (Bundle.context other (root.placed second)) depth visit' t value t' ∧
        BundleState.Across workspace first second s' t'
  -- Nodes are told apart by their kind, which is the same at both directories.
  -- The recursion is that of the walk: each case is built again from the same premises at the other
  -- directory.
  | .scalar shape => by
    intro visit' t visits states
    exact ⟨t, .scalar (visits.same.1.trans shape), states⟩
  | .sequence shape children => by
    intro visit' t visits states
    obtain ⟨t', children', after⟩ := children.across carried visits states (fun _ member => member)
    rw [← visits.same.1] at children'
    exact ⟨t', .sequence (visits.same.1.trans shape) children', after⟩
  | .mapping shape plain children => by
    intro visit' t visits states
    obtain ⟨t', children', after⟩ := children.across carried visits states (fun _ member => member)
    rw [← visits.same.1] at children' plain
    exact ⟨t', .mapping (visits.same.1.trans shape) plain children', after⟩
  | .reference refers answered siblings => by
    intro visit' t visits states
    -- First the reference is answered, then the members beside it are walked.
    obtain ⟨t₁, answered', between⟩ := answered.across carried refers visits states
    obtain ⟨t', siblings', after⟩ := siblings.across carried visits between (fun _ member => member)
    rw [← visits.same.1] at siblings' refers
    exact ⟨t', .reference refers answered' siblings', after⟩

/-- A reference that is answered at one directory has the same answer at the other one. -/
theorem Answered.across {workspace tree other : FileTree} {first second : FilePath} {root : Document}
    (carried : Carried workspace tree other first second root) {depth : Nat} {visit : Visit}
    {raw : String} {s s' : BundleState} {answer : Answer} :
    Answered (Bundle.context tree (root.placed first)) depth visit raw s answer s' →
    visit.node.reference? = some raw →
    ∀ ⦃visit' t⦄, Visit.Across workspace first second visit visit' →
      BundleState.Across workspace first second s t →
      ∃ t', Answered (Bundle.context other (root.placed second)) depth visit' raw t answer t' ∧
        BundleState.Across workspace first second s' t'
  -- Each answer is justified by what was read and by where that stands, so it is given again.
  -- Each answer asks only for what is loaded and where it leads, and both are the same at the other
  -- directory.
  | .kept reads home inside => by
    intro refers visit' t visits states
    obtain ⟨target', t₁, reads', documents, after⟩ := reads.across carried visits states refers
    exact ⟨t₁, .kept reads' (documents.home.mp home) (visits.home.mp inside), after⟩
  | .rooted reads home outside => by
    intro refers visit' t visits states
    obtain ⟨target', t₁, reads', documents, after⟩ := reads.across carried visits states refers
    exact ⟨t₁, .rooted reads' (documents.home.mp home) (fun inside => outside (visits.home.mpr inside)),
      after⟩
  | .reused leaves known => by
    intro refers visit' t visits states
    obtain ⟨target', t₁, leaves', documents, after⟩ := leaves.across carried visits states refers
    -- The source has a relocation there as well, with the same destination.
    have same := after.known? (documents.sourceIn raw)
    rw [known, Option.map_some] at same
    obtain ⟨relocation', known', destination⟩ := Option.map_eq_some_iff.mp same
    rw [← destination]
    exact ⟨t₁, .reused leaves' known', after⟩
  | .moved leaves new chosen free walked => by
    intro refers visit' t visits states
    obtain ⟨target', t₁, leaves', documents, between⟩ := leaves.across carried visits states refers
    have same := between.known? (documents.sourceIn raw)
    rw [new, Option.map_none, Option.map_eq_none_iff] at same
    rw [carried.destination? documents, ← visits.same.2] at chosen
    -- The content is walked from the reserved destination on, at both directories.
    obtain ⟨t', walked', after⟩ := walked.across carried
      (documents.visits leaves.found _ ⟨[], rfl, rfl⟩) (between.reserve (documents.sourceIn raw) _)
    exact ⟨_, .moved leaves' same chosen (between.free (documents.sourceIn raw) free) walked',
      after.fill (documents.sourceIn raw) _⟩
  | .replaced leaves new homeless fresh walked => by
    rename_i version target node s₁ content
    intro refers visit' t visits states
    obtain ⟨target', t₁, leaves', documents, between⟩ := leaves.across carried visits states refers
    have same := between.known? (documents.sourceIn raw)
    rw [new, Option.map_none, Option.map_eq_none_iff] at same
    rw [carried.destination? documents, ← visits.same.2] at homeless
    obtain ⟨inner, left, right⟩ := documents.sourceIn raw
    have inlining : ∃ sources : List Source, visit.inlining = sources.map (·.placed first) ∧
        visit'.inlining = sources.map (·.placed second) := by
      obtain ⟨visit, _, rfl, rfl⟩ := visits
      exact ⟨visit.inlining, rfl, rfl⟩
    obtain ⟨sources, outer, outer'⟩ := inlining
    -- What is being inlined is the same, but for the directory in front.
    have fresh' : sourceIn target' raw ∉ visit'.inlining := by
      rw [outer', right, Origin.mem_placed]
      rwa [outer, left, Origin.mem_placed] at fresh
    have around : ∃ sources : List Source,
        sourceIn target raw :: visit.inlining = sources.map (·.placed first) ∧
        sourceIn target' raw :: visit'.inlining = sources.map (·.placed second) :=
      ⟨inner :: sources, by rw [List.map_cons, ← left, ← outer],
        by rw [List.map_cons, ← right, ← outer']⟩
    obtain ⟨t', walked', after⟩ := walked.across carried (documents.visits leaves.found _ around)
      (between.record (documents.sourceIn raw) _)
    rw [← visits.same.2] at walked'
    exact ⟨_, .replaced leaves' same homeless fresh' walked', after⟩

/-- Children that are walked at one directory become the same members at the other one. -/
theorem WalkedChildren.across {workspace tree other : FileTree} {first second : FilePath}
    {root : Document} (carried : Carried workspace tree other first second root) {depth : Nat}
    {visit : Visit} {beside : Bool} {children : List (String × Node)} {s s' : BundleState}
    {members : List (String × Json)} :
    WalkedChildren (Bundle.context tree (root.placed first)) depth visit beside children s members s' →
    ∀ ⦃visit' t⦄, Visit.Across workspace first second visit visit' →
      BundleState.Across workspace first second s t →
      (∀ child ∈ children, child ∈ visit.node.children) →
      ∃ t', WalkedChildren (Bundle.context other (root.placed second)) depth visit' beside children t
          members t' ∧ BundleState.Across workspace first second s' t'
  | .nil => by
    intro visit' t visits states _
    exact ⟨t, .nil, states⟩
  | .reference others => by
    intro visit' t visits states inside
    obtain ⟨t', others', after⟩ := others.across carried visits states
      (fun child member => inside child (List.mem_cons_of_mem _ member))
    exact ⟨t', .reference others', after⟩
  -- The states stay one state from child to child.
  | .cons walks walked others => by
    intro visit' t visits states inside
    obtain ⟨here, later⟩ := List.forall_mem_cons.mp inside
    obtain ⟨t₁, walked', between⟩ := walked.across carried (visits.child here) states
    obtain ⟨t', others', after⟩ := others.across carried visits between later
    exact ⟨t', .cons walks walked' others', after⟩

end

end SpecTrace

namespace SpecTrace

/-! ### Bundles -/

namespace Bundle

/-- A walk of the root file that answers, with whatever room, is the one behind its bundle. -/
theorem run_of_walked {tree : FileTree} {path : List PathName} {session read : Session}
    {root : Document} {depth : Nat} {copied : Json} {s : BundleState} (faithful : session.Faithful)
    (opened : runFrom (Session.document tree path) session = (.ok root, read))
    (walked : Walked (context tree root) depth ⟨⟨root.path, []⟩, root.root, [], []⟩
      ⟨read, [], .empty⟩ copied s) :
    (start tree read root).run (context tree root) = (.ok copied, s) := by
  have ran : runFrom (walkWithin (context tree root) depth root.root.toJson ⟨root.path, [], []⟩)
      ⟨read, [], .empty⟩ = (.ok copied, s) := walked.run
  show runFrom (walkWithin (context tree root) (walkDepth tree read) root.root.toJson
    ⟨root.path, [], []⟩) ⟨read, [], .empty⟩ = (.ok copied, s)
  -- The walk with less room has the outcome of the other one, and none of them is cut off.
  rcases Nat.le_total depth (walkDepth tree read) with fits | fits
  · rcases walkWithin_more fits root.root.toJson ⟨root.path, [], []⟩ _ with exhausted | same
    · rw [ran] at exhausted
      cases exhausted
    · exact same.symm.trans ran
  · rcases walkWithin_more fits root.root.toJson ⟨root.path, [], []⟩ _ with exhausted | same
    · exact absurd exhausted (run_ne_exhausted faithful opened)
    · exact same.trans ran

variable {workspace tree other : FileTree} {first second : FilePath} {path : List PathName}

/-- A bundle that is built at one directory is built at the other one. -/
theorem build_carried (portable : workspace.Portable) (here : Lies workspace tree first)
    (there : Lies workspace other second) (stays : FilePath.staysInside 0 path = true)
    {built : Bundle} {after : Session}
    (success : runFrom (build tree (first.names ++ path)) .empty = (.ok built, after)) :
    ∃ bundle : Bundle, built = bundle.placed first ∧
      (runFrom (build other (second.names ++ path)) .empty).1 = .ok (bundle.placed second) := by
  obtain ⟨root₁, read₁, copied, s, made⟩ := made_of_build success
  -- The root file is read at the other directory as well.
  obtain ⟨root, read, asked, rfl, rfl⟩ := (Session.document_placed_iff here.toPlaced portable.proper
    portable.isDirectory (FileTree.resolve_placed here.toPlaced stays) .empty).mp made.opened
  have opened : runFrom (Session.document other (second.names ++ path)) .empty =
      (.ok (root.placed second), read.placed second) :=
    (Session.document_placed_iff there.toPlaced portable.proper portable.isDirectory
      (FileTree.resolve_placed there.toPlaced stays) .empty).mpr ⟨root, read, asked, rfl, rfl⟩
  obtain ⟨held, current⟩ := (Session.current_empty workspace).loads asked
  have named := Session.node?_of_load held []
  -- So is all that its walk comes to, and the walk has room enough there.
  have carried : Carried workspace tree other first second root := ⟨portable, here, there, held⟩
  obtain ⟨t, walked, state, _, rfl, rfl⟩ := made.walked.across carried
    ⟨⟨⟨root.path, []⟩, root.root, [], []⟩, named, rfl, rfl⟩ ⟨⟨read, [], .empty⟩, current, rfl, rfl⟩
  have ran := run_of_walked Session.faithful_empty opened walked
  -- Neither what is put together nor where it is put depends on the directory.
  have placed := made.placed
  rw [BundleState.placed, place_placed] at placed
  refine ⟨⟨root.path, (context workspace root).version, built.document, state.provenance⟩, ?_, ?_⟩
  · have same := success.symm.trans (build_of_placed made.opened made.ran made.placed)
    exact Except.ok.inj (congrArg Prod.fst same)
  · have moved : place copied (state.placed second).relocations = .ok built.document := by
      rw [BundleState.placed, place_placed, placed]
    rw [build_of_placed opened ran moved]
    rfl

/-- Wherever a workspace lies that can be carried around, a file of it is bundled alike: at two
directories, it is bundled at both or at neither, with the same document, and with the same records
but for the directory in front of their files. -/
theorem place_makes_no_difference {session session' : Session} (portable : workspace.Portable)
    (here : Lies workspace tree first) (there : Lies workspace other second)
    (stays : FilePath.staysInside 0 path = true) (current : session.Current tree)
    (current' : session'.Current other) :
    (∃ bundle : Bundle,
      (runFrom (build tree (first.names ++ path)) session).1 = .ok (bundle.placed first) ∧
      (runFrom (build other (second.names ++ path)) session').1 = .ok (bundle.placed second)) ∨
    ∃ fault fault',
      (runFrom (build tree (first.names ++ path)) session).1 = .error fault ∧
      (runFrom (build other (second.names ++ path)) session').1 = .error fault' := by
  -- What the sessions have read makes no difference.
  rw [build_fresh current, build_fresh current']
  rcases one : runFrom (build tree (first.names ++ path)) .empty with ⟨answer, after⟩
  rcases two : runFrom (build other (second.names ++ path)) .empty with ⟨answer', after'⟩
  cases answer with
  | ok built =>
    obtain ⟨bundle, rfl, success⟩ := build_carried portable here there stays one
    rw [two] at success
    exact Or.inl ⟨bundle, rfl, success⟩
  | error fault =>
    cases answer' with
    | error fault' => exact Or.inr ⟨fault, fault', rfl, rfl⟩
    | ok built =>
      -- What is bundled at the second directory would be bundled at the first one.
      obtain ⟨bundle, _, success⟩ := build_carried portable there here stays two
      rw [one] at success
      cases success

/-- A workspace whose files refer to one another, up and down its directories. -/
def sharedModels : FileTree :=
  .directory
    [("api.yaml", .file (some "openapi: 3.0.0\nx:\n  $ref: models/b.yaml#/components/schemas/X\n")),
      ("models", .directory
        [("b.yaml", .file (some "components:\n  schemas:\n    X:\n      $ref: ../c.yaml#/y\n"))]),
      ("c.yaml", .file (some "y: [1]\n"))]

/-- The workspace can be carried around. -/
theorem portable_sharedModels : sharedModels.Portable := by
  refine ⟨rfl, ?_, FileTree.Refers.all (by decide +kernel)⟩
  -- The names differ in each directory; what the references need is computed.
  exact .add (by decide) (by decide) .file (.add (by decide) (by decide)
    (.add (by decide) (by decide) .file .empty) (.add (by decide) (by decide) .file .empty))

/-- It is bundled alike at the root of a file system and in a directory with a space in its name. -/
theorem shared_models_are_portable : ∃ bundle : Bundle,
    (runFrom (build sharedModels [.text "api.yaml"]) .empty).1 = .ok (bundle.placed []) ∧
    (runFrom (build (.directory [("my apis", sharedModels)]) [.text "my apis", .text "api.yaml"])
      .empty).1 = .ok (bundle.placed ["my apis"]) := by
  -- The models lie at the root here, so the files must refer to no drive; there they lie below a
  -- directory, where it does not matter.
  have driveless : sharedModels.Driveless := FileTree.Refers.all (by decide +kernel)
  have here : Lies sharedModels sharedModels [] := ⟨⟨rfl, by decide⟩, Or.inr driveless⟩
  have there : Lies sharedModels (.directory [("my apis", sharedModels)]) ["my apis"] :=
    ⟨⟨rfl, by decide⟩, Or.inl (List.cons_ne_nil _ _)⟩
  have answers : (runFrom (build sharedModels [.text "api.yaml"]) .empty).1.isOk = true := by
    decide +kernel
  rcases @place_makes_no_difference sharedModels _ _ _ _ [.text "api.yaml"] _ _ portable_sharedModels
    here there (by decide) (Session.current_empty _) (Session.current_empty _) with
    same | ⟨fault, _, fails, _⟩
  · exact same
  · change (runFrom (build sharedModels [.text "api.yaml"]) .empty).1 = .error fault at fails
    rw [fails] at answers
    cases answers

/-- A workspace with a directory that is named like a drive. -/
def driveNamed : FileTree :=
  .directory
    [("api.yaml", .file (some "openapi: 3.0.0\nx:\n  $ref: ./C|/b.yaml#/components/schemas/X\n")),
      ("C|", .directory [("b.yaml", .file (some "components:\n  schemas:\n    X: [1]\n"))])]

/-- At the root of a file system, a directory that is named like a drive is taken for one, so its
files are not found; below another directory they are. -/
theorem drive_is_mistaken : driveNamed.Portable ∧ Placed driveNamed driveNamed [] ∧
    Placed driveNamed (.directory [("w", driveNamed)]) ["w"] ∧
    (runFrom (build driveNamed [.text "api.yaml"]) .empty).1.isOk = false ∧
    (runFrom (build (.directory [("w", driveNamed)]) [.text "w", .text "api.yaml"])
      .empty).1.isOk = true := by
  -- The two sessions are run; that the directory is well-formed is read off its entries.
  have proper : driveNamed.Proper :=
    .add (by decide) (by decide) .file
      (.add (by decide) (by decide) (.add (by decide) (by decide) .file .empty) .empty)
  have portable : driveNamed.Portable := ⟨rfl, proper, FileTree.Refers.all (by decide +kernel)⟩
  exact ⟨portable, ⟨rfl, by decide⟩, ⟨rfl, by decide⟩, by decide +kernel, by decide +kernel⟩

end Bundle

end SpecTrace
