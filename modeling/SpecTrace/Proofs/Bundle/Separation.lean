import SpecTrace.Proofs.Bundle.Built
import SpecTrace.Proofs.Pointer.EncodedBytes

/-! No two sources are merged silently: the states of a bundle keep them apart, the bundle holds
what was walked for each, and a clash ends the run. -/

namespace SpecTrace

open Relation

/-- The states that a call comes to: those in which it or a call reached from it begins, ends, or
has loaded the document of its reference. -/
inductive Passes (context : BundleContext) (first : Call) : BundleState → Prop
  | begins {call} (reached : ReflTransGen (Calls context) first call) :
    Passes context first call.state
  | loads {call raw answer s} (reached : ReflTransGen (Calls context) first call)
    (refers : call.visit.node.reference? = some raw)
    (loaded : runFrom (loadTarget context (Reference.parse raw) call.visit.origin.file)
      call.state = (answer, s)) :
    Passes context first s
  | ends {call} (reached : ReflTransGen (Calls context) first call) :
    Passes context first (call.run context).2

/-- A call comes to states by steps. -/
theorem Passes.steps {context : BundleContext} {first : Call} {s : BundleState}
    (passes : Passes context first s) : BundleSteps context first.state s := by
  -- Reaching a call, loading for it and running it all are steps.
  cases passes with
  | begins reached => exact reached_steps reached
  | loads reached _ loaded => exact (reached_steps reached).trans (loadTarget_steps loaded)
  | ends reached => exact (reached_steps reached).trans (run_steps context _)

/-- The walk computes a destination for the new source that a reference names. -/
inductive Chooses (context : BundleContext) : Call → Source → Pointer → BundleState → Prop
  | new {depth visit s raw version target node s₁ destination}
    (refers : visit.node.reference? = some raw)
    (leaves : Leaves context visit.origin.file raw s version target node s₁)
    (new : s₁.known? (sourceIn target raw) = none)
    (chosen : destination? context version (Reference.parse raw) target.path visit.site =
      some destination) :
    Chooses context ⟨depth, visit, s⟩ (sourceIn target raw) destination s₁

/-- A call that computes a destination which is not free fails. -/
theorem Chooses.fails {context : BundleContext} {call : Call} {source : Source}
    {destination : Pointer} {s : BundleState} (chooses : Chooses context call source destination s)
    (taken : ¬ Free context s source destination) : ∃ fault t, Raises context call fault t := by
  cases chooses with
  | new refers leaves new chosen =>
    rename_i depth visit s raw version target node
    -- A call without depth fails before it comes to the reference.
    cases depth with
    | zero => exact ⟨_, _, .exhausted⟩
    | succ depth => exact ⟨_, _, .collision refers leaves new chosen taken⟩

/-- A walk that fails for a collision comes to a call that computes a destination which is not
free. -/
theorem exists_chooses_of_collision {context : BundleContext} {call : Call} {fragment : String}
    {s : BundleState} (failed : call.run context = (.error (.collision fragment), s)) :
    ∃ last source destination, ReflTransGen (Calls context) call last ∧
      Chooses context last source destination s ∧ destination.fragment = fragment ∧
      ¬ Free context s source destination := by
  -- Every failing run comes to a last call that raises the fault. Reading raises other faults, so
  -- that call has computed a destination.
  have accounts : Accounts context call (call.run context) :=
    run_accounts context call.depth call.visit call.state
  rw [failed] at accounts
  obtain ⟨last, reached, raises⟩ := accounts
  cases raises with
  | unread refers near failed => exact (loadTarget_fault failed).elim
  | collision refers leaves new chosen taken =>
    exact ⟨_, _, _, reached, .new refers leaves new chosen, rfl, taken⟩

/-- Destinations of another source that begin one another are not free. -/
theorem not_free_of_clash {context : BundleContext} {s : BundleState} {source : Source}
    {destination : Pointer} {relocation : Relocation} (member : relocation ∈ s.relocations)
    (other : relocation.source ≠ source)
    (clash : relocation.destination <+: destination ∨ destination <+: relocation.destination) :
    ¬ Free context s source destination := by
  -- A free destination stands apart from those of all other sources, in both directions.
  intro free
  obtain ⟨apart, away⟩ := related_eq_false_iff.mp (free.apart relocation member other)
  rcases clash with clash | clash
  · exact apart clash
  · exact away clash

/-- Sources stay apart in every state that a bundle comes to. When the bundle is built, each
destination holds the content that was walked for its source; when a destination is computed that
clashes with that of another source, no bundle is built. -/
theorem build_keeps_sources_apart {tree : FileTree} {path : List PathName}
    {session read : Session} {root : Document}
    (opened : runFrom (Session.document tree path) session = (.ok root, read)) :
    (∀ s, Passes (Bundle.context tree root) (Bundle.start tree read root) s →
      s.sources.Nodup ∧
      (∀ one ∈ s.relocations, ∀ other ∈ s.relocations, one.source ≠ other.source →
        one.destination ≠ other.destination ∧ ¬ one.destination <+: other.destination ∧
          ¬ other.destination <+: one.destination) ∧
      ∀ relocation ∈ s.relocations, root.root.find? relocation.destination = none) ∧
    (∀ bundle after, runFrom (Bundle.build tree path) session = (.ok bundle, after) →
      ∃ copied s,
        (Bundle.start tree read root).run (Bundle.context tree root) = (.ok copied, s) ∧
        ∀ relocation ∈ s.relocations, ∃ node content,
          Settled (Bundle.context tree root) s relocation node content ∧
          bundle.document.find? relocation.destination = some content) ∧
    (∀ call source destination s,
      ReflTransGen (Calls (Bundle.context tree root)) (Bundle.start tree read root) call →
      Chooses (Bundle.context tree root) call source destination s →
      ∀ relocation ∈ s.relocations, relocation.source ≠ source →
        (relocation.destination <+: destination ∨ destination <+: relocation.destination) →
        ∃ fault after, runFrom (Bundle.build tree path) session = (.error fault, after)) := by
  refine ⟨?_, ?_, ?_⟩
  · intro s passes
    -- The walk begins with nothing reserved, and no step brings sources together.
    have separate := passes.steps.separate (separate_empty _ _)
    refine ⟨separate.once, ?_, separate.vacant⟩
    intro one first other second different
    obtain ⟨ahead, behind⟩ :=
      related_eq_false_iff.mp (separate.apart one first other second different)
    exact ⟨fun same => ahead (same ▸ List.prefix_rfl), ahead, behind⟩
  · intro bundle after built
    obtain ⟨root', read', copied, s, made⟩ := Bundle.made_of_build built
    -- The root file is read once, so this is the same walk.
    have same := made.opened
    rw [opened] at same
    cases same
    exact ⟨copied, s, made.ran, fun relocation member => made.settled member⟩
  · intro call source destination s reached chooses relocation member other clash
    -- The call fails, and so does every walk that reaches it.
    obtain ⟨fault, t, raises⟩ := chooses.fails (not_free_of_clash member other clash)
    exact ⟨fault, _, Bundle.build_of_run_error opened (Fails.error ⟨call, reached, raises⟩)⟩

/-- A root file that refers to two schemas of another file. -/
def Bundle.twoSchemas : FileTree :=
  .directory
    [("api.yaml", .file (some ("openapi: 3.0.0\nx:\n  $ref: b.yaml#/components/schemas/X\n" ++
        "y:\n  $ref: b.yaml#/components/schemas/Y\n"))),
      ("b.yaml", .file (some "components:\n  schemas:\n    X: [1]\n    Y: [2]\n"))]

/-- A root file that refers to a schema of another file and to a part of that schema. -/
def Bundle.schemaAndPart : FileTree :=
  .directory
    [("api.yaml", .file (some ("openapi: 3.0.0\nx:\n  $ref: b.yaml#/components/schemas/X\n" ++
        "y:\n  $ref: b.yaml#/components/schemas/X/p\n"))),
      ("b.yaml", .file (some "components:\n  schemas:\n    X:\n      p: [1]\n"))]

/-- The part of the schema gets a destination below that of the schema itself. -/
theorem part_clashes_with_schema :
    ∃ root read call source destination s, ∃ relocation ∈ s.relocations,
      runFrom (Session.document Bundle.schemaAndPart [.text "api.yaml"]) .empty =
        (.ok root, read) ∧
      ReflTransGen (Calls (Bundle.context Bundle.schemaAndPart root))
        (Bundle.start Bundle.schemaAndPart read root) call ∧
      Chooses (Bundle.context Bundle.schemaAndPart root) call source destination s ∧
      relocation.source ≠ source ∧ relocation.destination <+: destination := by
  -- What the walk fails with and what the root file holds are computed. The call that failed is
  -- found from there.
  obtain ⟨root, read, opened, holds⟩ := exists_of_answers
    (show (runFrom (Session.document Bundle.schemaAndPart [.text "api.yaml"]) .empty).1.toOption.any
      (fun root => (root.root.find? ["components", "schemas", "b-yaml-X", "p"]).isNone) = true by
      decide +kernel)
  have vacant := Option.isNone_iff_eq_none.mp holds
  obtain ⟨s, ran⟩ := Bundle.run_of_fault? opened
    (show Bundle.fault? Bundle.schemaAndPart [.text "api.yaml"] .empty =
      some (.collision "#/components/schemas/b-yaml-X/p") by decide +kernel)
  have moved := (Bundle.moves_eq opened).symm.trans
    (show Bundle.moves Bundle.schemaAndPart [.text "api.yaml"] .empty =
      [(⟨["b.yaml"], ["components", "schemas", "X"]⟩, ["components", "schemas", "b-yaml-X"])] by
      decide +kernel)
  rw [ran] at moved
  obtain ⟨call, source, destination, reached, chooses, same, taken⟩ :=
    exists_chooses_of_collision ran
  obtain rfl : destination = ["components", "schemas", "b-yaml-X", "p"] :=
    Pointer.fragment_inj (same.trans (by decide +kernel))
  -- The root file has nothing at the destination, so another source has one that clashes.
  obtain ⟨relocation, member, other⟩ :
      ∃ relocation ∈ s.relocations, relocation.source ≠ source := by
    by_contra alone
    refine taken ⟨vacant, fun relocation member other => ?_⟩
    exact absurd ⟨relocation, member, other⟩ alone
  have above : relocation.destination = ["components", "schemas", "b-yaml-X"] := by
    have listed := List.mem_map_of_mem (f := fun relocation : Relocation =>
      (relocation.source, relocation.destination)) member
    rw [moved, List.mem_singleton] at listed
    exact congrArg Prod.snd listed
  exact ⟨root, read, call, source, _, s, relocation, member, opened, reached, chooses, other,
    above ▸ ⟨["p"], rfl⟩⟩

/-- The two schemas stay apart and are found where they went. The schema and its part clash, and no
bundle is built. -/
theorem two_files_stay_apart :
    (∃ root read copied s bundle after,
      runFrom (Session.document Bundle.twoSchemas [.text "api.yaml"]) .empty = (.ok root, read) ∧
      (Bundle.start Bundle.twoSchemas read root).run (Bundle.context Bundle.twoSchemas root) =
        (.ok copied, s) ∧
      runFrom (Bundle.build Bundle.twoSchemas [.text "api.yaml"]) .empty = (.ok bundle, after) ∧
      (s.relocations.map fun relocation => (relocation.source, relocation.destination)) =
        [(⟨["b.yaml"], ["components", "schemas", "X"]⟩, ["components", "schemas", "b-yaml-X"]),
          (⟨["b.yaml"], ["components", "schemas", "Y"]⟩, ["components", "schemas", "b-yaml-Y"])] ∧
      (∀ t, Passes (Bundle.context Bundle.twoSchemas root)
          (Bundle.start Bundle.twoSchemas read root) t →
        t.sources.Nodup ∧
        (∀ one ∈ t.relocations, ∀ other ∈ t.relocations, one.source ≠ other.source →
          one.destination ≠ other.destination ∧ ¬ one.destination <+: other.destination ∧
            ¬ other.destination <+: one.destination) ∧
        ∀ relocation ∈ t.relocations, root.root.find? relocation.destination = none) ∧
      ∀ relocation ∈ s.relocations, ∃ node content,
        Settled (Bundle.context Bundle.twoSchemas root) s relocation node content ∧
        bundle.document.find? relocation.destination = some content) ∧
    ∃ root read call source destination s, ∃ relocation ∈ s.relocations,
      runFrom (Session.document Bundle.schemaAndPart [.text "api.yaml"]) .empty =
        (.ok root, read) ∧
      ReflTransGen (Calls (Bundle.context Bundle.schemaAndPart root))
        (Bundle.start Bundle.schemaAndPart read root) call ∧
      Chooses (Bundle.context Bundle.schemaAndPart root) call source destination s ∧
      relocation.source ≠ source ∧ relocation.destination <+: destination ∧
      ∃ fault after, runFrom (Bundle.build Bundle.schemaAndPart [.text "api.yaml"]) .empty =
        (.error fault, after) := by
  -- The first half is about a bundle that is built, the second about a walk that is refused.
  constructor
  · obtain ⟨bundle, after, built⟩ := exists_of_isOk
      (show (runFrom (Bundle.build Bundle.twoSchemas [.text "api.yaml"]) .empty).1.isOk = true by
        decide +kernel)
    obtain ⟨root, read, copied, s, made⟩ := Bundle.made_of_build built
    have moved := Bundle.moves_eq made.opened
    rw [made.ran] at moved
    obtain ⟨apart, holds, _⟩ := build_keeps_sources_apart made.opened
    -- The walk that the bundle holds the content of is the one that it was made by.
    obtain ⟨copied', s', ran, settled⟩ := holds bundle after built
    rw [made.ran] at ran
    cases ran
    exact ⟨root, read, copied, s, bundle, after, made.opened, made.ran, built,
      moved.symm.trans (by decide +kernel), apart, settled⟩
  · obtain ⟨root, read, call, source, destination, s, relocation, member, opened, reached, chooses,
      other, begins⟩ := part_clashes_with_schema
    exact ⟨root, read, call, source, destination, s, relocation, member, opened, reached, chooses,
      other, begins, (build_keeps_sources_apart opened).2.2 call source destination s reached chooses
        relocation member other (Or.inl begins)⟩

end SpecTrace
