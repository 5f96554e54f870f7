import Mathlib.Data.List.Infix
import SpecTrace.Proofs.Bundle.Written

/-! What relocation leaves of the root file: its mappings keep their keys, and get new ones only on
the way to destinations. These lie in the containers of a version or in `components`. -/

namespace SpecTrace

/-- A place that whole parts may be put into: the document, a `components` section or one of its
kinds, or a container of the second version. -/
def HoldsParts (p : Pointer) : Prop :=
  p = [] ∨ (p.head? = some "components" ∧ p.length ≤ 2) ∨ p ∈ ApiVersion.v2.containers.map Prod.snd

instance (p : Pointer) : Decidable (HoldsParts p) :=
  inferInstanceAs (Decidable (_ ∨ _ ∨ _))

/-- Every container holds parts, and so does what is above it. -/
theorem holdsParts_of_container {version : ApiVersion} {name : String} {container p : Pointer}
    (known : version.container? name = some container) (above : p <+: container) :
    HoldsParts p := by
  -- There are a few containers, and each is looked at.
  have all : ∀ entry ∈ version.containers, ∀ q ∈ entry.2.inits, HoldsParts q := by
    cases version <;> decide
  exact all _ (lookupMember?_mem known) p ((List.mem_inits _ _).mpr above)

/-- A destination takes over the kind of a component of its source and all that is below it, and
only names the component anew. -/
def FollowsComponent (context : BundleContext) (relocation : Relocation) (kind key : String) :
    Prop :=
  ∃ name rest, relocation.source.pointer = "components" :: kind :: name :: rest ∧
    key = mangle (relativePath context.root.path.directory.text relocation.source.file.text) ++ "-" ++
      name ∧
    relocation.destination = "components" :: kind :: key :: rest

/-- A destination was chosen for its source where a reference to it stood. -/
def Destined (context : BundleContext) (relocation : Relocation) : Prop :=
  ∃ version raw target site, relocation.source = sourceIn target raw ∧
    destination? context version (Reference.parse raw) target.path site =
      some relocation.destination

/-- A destination is right below a container, or it follows the component of its source. -/
theorem Destined.cases {context : BundleContext} {relocation : Relocation}
    (destined : Destined context relocation) :
    (∃ (version : ApiVersion) (name : String) (container : Pointer) (key : String),
        version.container? name = some container ∧ relocation.destination = container ++ [key]) ∨
      ∃ kind key, FollowsComponent context relocation kind key := by
  obtain ⟨version, raw, target, site, source, chosen⟩ := destined
  -- The destination was made from the pointer of the source, or from the place of the reference.
  unfold destination? at chosen
  split at chosen
  · -- The pointer of the source begins with a component.
    rename_i kind name rest pointer
    simp only [Option.some.injEq] at chosen
    refine Or.inr ⟨kind, _, name, rest, ?_, rfl, ?_⟩
    · rw [source]
      exact pointer
    · rw [← chosen, source]
      rfl
  · -- The container is that of the key above the reference, or of the one above that.
    obtain ⟨container, found, placed⟩ := Option.map_eq_some_iff.mp chosen
    rw [Option.orElse_eq_orElse, Option.orElse_eq_or, Option.or_eq_some_iff] at found
    rcases found with here | ⟨_, here⟩ <;>
      obtain ⟨name, _, known⟩ := Option.bind_eq_some_iff.mp here <;>
      exact Or.inl ⟨version, name, container, _, known, placed.symm⟩

/-- What is above a destination holds parts, or it is inside of the component that the destination
follows. -/
theorem Destined.above {context : BundleContext} {relocation : Relocation} {p : Pointer}
    {key : String} (destined : Destined context relocation)
    (above : p ++ [key] <+: relocation.destination) :
    HoldsParts p ∨ ∃ kind name, FollowsComponent context relocation kind name ∧
      ["components", kind, name] <+: p := by
  rcases destined.cases with ⟨version, name, container, last, known, placed⟩ | ⟨kind, name, follows⟩
  · -- Nothing but the last segment is below the container.
    refine Or.inl (holdsParts_of_container known ?_)
    rw [placed, List.prefix_concat_iff] at above
    rcases above with same | inside
    · exact (List.append_inj' same rfl).1 ▸ List.prefix_rfl
    · exact (List.prefix_append p [key]).trans inside
  · have ⟨component, rest, _, _, placed⟩ := follows
    have way : p <+: "components" :: kind :: name :: rest :=
      placed ▸ (List.prefix_append p [key]).trans above
    -- The first three segments are those of the component.
    match p, way with
    | [], _ => exact Or.inl (Or.inl rfl)
    | [first], way =>
      obtain ⟨rfl, _⟩ := List.cons_prefix_cons.mp way
      exact Or.inl (Or.inr (Or.inl ⟨rfl, by decide⟩))
    | [first, second], way =>
      obtain ⟨rfl, _⟩ := List.cons_prefix_cons.mp way
      exact Or.inl (Or.inr (Or.inl ⟨rfl, by simp⟩))
    | first :: second :: third :: more, way =>
      simp only [List.cons_prefix_cons] at way
      obtain ⟨rfl, rfl, rfl, _⟩ := way
      exact Or.inr ⟨_, _, follows, ⟨more, rfl⟩⟩

/-- Every destination of a state was chosen. -/
def BundleState.Destined (context : BundleContext) (s : BundleState) : Prop :=
  ∀ relocation ∈ s.relocations, SpecTrace.Destined context relocation

section

variable {context : BundleContext} {s t : BundleState}

/-- Loading a document chooses no destination. -/
theorem BundleState.Destined.load {reference : Reference} {file : FilePath}
    {answer : Except AuditFault Document} (destined : s.Destined context)
    (ran : runFrom (loadTarget context reference file) s = (answer, t)) : t.Destined context := by
  rw [BundleState.Destined, loadTarget_relocations ran]
  exact destined

/-- A destination that was chosen is reserved. -/
theorem BundleState.Destined.reserve {source : Source} {destination : Pointer}
    (destined : s.Destined context)
    (chosen : SpecTrace.Destined context ⟨source, destination, none⟩) :
    (s.reserve source destination).Destined context := by
  intro relocation member
  -- The new relocation comes last.
  rcases List.mem_append.mp member with old | new
  · exact destined relocation old
  · rw [List.mem_singleton.mp new]
    exact chosen

/-- Filling in content moves no destination. -/
theorem BundleState.Destined.fill (destined : s.Destined context) (source : Source)
    (content : Json) : (s.fill source content).Destined context := by
  intro relocation member
  -- Each relocation has the source and the destination of a former one.
  obtain ⟨former, present, same, placed⟩ := mem_fill member
  obtain ⟨version, raw, target, site, named, chosen⟩ := destined former present
  exact ⟨version, raw, target, site, same ▸ named, placed ▸ chosen⟩

end

mutual

/-- The walk of a node chooses all destinations that it adds. -/
theorem Walked.destined {context : BundleContext} {depth : Nat} {visit : Visit}
    {s s' : BundleState} {value : Json} :
    Walked context depth visit s value s' → s.Destined context → s'.Destined context
  -- Only the answers to references add destinations.
  -- An answer comes before the siblings, so its destinations are chosen when theirs are.
  | .scalar _, destined => destined
  | .sequence _ children, destined => children.destined destined
  | .mapping _ _ children, destined => children.destined destined
  | .reference _ answered siblings, destined => siblings.destined (answered.destined destined)

/-- The answer to a reference chooses all destinations that it adds. -/
theorem Answered.destined {context : BundleContext} {depth : Nat} {visit : Visit} {raw : String}
    {s s' : BundleState} {answer : Answer} :
    Answered context depth visit raw s answer s' → s.Destined context → s'.Destined context
  | .kept reads _ _, destined => destined.load reads.loaded
  | .rooted reads _ _, destined => destined.load reads.loaded
  | .reused leaves _, destined => destined.load leaves.loaded
  | .moved leaves _ chosen _ walked, destined =>
    -- The new destination is the one that was chosen for the reference.
    (walked.destined ((destined.load leaves.loaded).reserve ⟨_, _, _, _, rfl, chosen⟩)).fill _ _
  | .replaced leaves _ _ _ walked, destined =>
    -- A record reserves nothing.
    walked.destined fun relocation member => destined.load leaves.loaded relocation member

/-- The walk of children chooses all destinations that it adds. -/
theorem WalkedChildren.destined {context : BundleContext} {depth : Nat} {visit : Visit}
    {beside : Bool} {children : List (String × Node)} {s s' : BundleState}
    {members : List (String × Json)} :
    WalkedChildren context depth visit beside children s members s' → s.Destined context →
      s'.Destined context
  | .nil, destined => destined
  | .reference others, destined => others.destined destined
  | .cons _ walked others, destined => others.destined (walked.destined destined)

end

/-- A mapping of the root file that no reference stands above keeps its keys in the bundle, in their
order. It gets new keys only on the way to destinations, and only if it is a place that holds parts;
but a destination that follows a component of its source may run through one of the root file. -/
theorem root_mappings_are_kept {tree : FileTree} {path : List PathName}
    {session read after : Session} {root : Document} {copied : Json} {s : BundleState}
    {bundle : Bundle} (opened : runFrom (Session.document tree path) session = (.ok root, read))
    (ran : (Bundle.start tree read root).run (Bundle.context tree root) = (.ok copied, s))
    (built : runFrom (Bundle.build tree path) session = (.ok bundle, after))
    {p : Pointer} {entries : List (Entry Node)} {span : Span}
    (held : root.root.find? p = some (.mapping entries span))
    (plain : ∀ u, u <+: p → ∀ node, root.root.find? u = some node → node.reference? = none) :
    ∃ members extra, bundle.document.find? p = some (.object members) ∧
      members.map Prod.fst = entries.map Entry.key ++ extra ∧
      ∀ key ∈ extra, key ∉ entries.map Entry.key ∧
        ∃ relocation ∈ s.relocations, p ++ [key] <+: relocation.destination ∧
          (HoldsParts p ∨ ∃ kind name,
            FollowsComponent (Bundle.context tree root) relocation kind name ∧
              ["components", kind, name] <+: p) := by
  have made := Bundle.made_of_run opened ran built
  have destined := made.walked.destined (by simp [BundleState.Destined])
  have outside := made.outside held
  -- The walk copies the mapping with its keys.
  obtain ⟨below, s₁, s₂, stands, walked⟩ :=
    made.walked.follow held fun u above _ node found => plain u above node found
  obtain ⟨members, keys, rfl⟩ := walked.of_mapping rfl (plain p List.prefix_rfl _ held)
  -- Placing content adds keys behind those, each on the way to a destination.
  obtain ⟨value, placed, top⟩ :=
    Bundle.find?_place_top made.placed made.separate.pairwise outside stands
  have copy : Json.membersOrNone (copied.find? p) = some members := by rw [stands]; rfl
  obtain ⟨members', extra, ends, grown, told⟩ := Bundle.keys_place made.placed outside copy
  rw [placed] at ends
  obtain rfl := Json.members?_eq_some_iff.mp ends
  rw [keys] at grown told
  refine ⟨members', extra, placed, grown, fun key member => ?_⟩
  obtain ⟨new, relocation, inside, way⟩ := told key member
  exact ⟨new, relocation, inside, way, (destined relocation inside).above way⟩

/-- The keys of the mapping at a pointer, if no node on the way to it is a reference. -/
def Node.plainKeys? (node : Node) (p : Pointer) : Option (List String) :=
  if p.inits.all fun u => (node.find? u).all fun way => way.reference?.isNone then
    match node.find? p with
    | some (.mapping entries _) => some (entries.map Entry.key)
    | _ => none
  else none

/-- What has plain keys is a mapping without references on the way to it. -/
theorem Node.of_plainKeys? {node : Node} {p : Pointer} {keys : List String}
    (plain : node.plainKeys? p = some keys) :
    (∃ entries span, node.find? p = some (.mapping entries span) ∧ entries.map Entry.key = keys) ∧
      ∀ u, u <+: p → ∀ way, node.find? u = some way → way.reference? = none := by
  -- The function tests every beginning of the pointer first and looks for a mapping after that.
  unfold plainKeys? at plain
  split at plain
  · rename_i clear
    constructor
    · split at plain
      · rename_i entries span found
        exact ⟨entries, span, found, Option.some.inj plain⟩
      · cases plain
    · intro u above way found
      have inside := List.all_eq_true.mp clear u ((List.mem_inits _ _).mpr above)
      rw [found] at inside
      exact Option.isNone_iff_eq_none.mp inside
  · cases plain

/-- The keys of the object at a pointer of a bundle. -/
def Bundle.keys? (bundle : Bundle) (p : Pointer) : Option (List String) :=
  ((bundle.document.find? p).bind Json.members?).map fun members => members.map Prod.fst

/-- A root file with a schema of its own, beside which one of another file is put. -/
def Bundle.ownPart : FileTree :=
  .directory
    [("api.yaml", .file (some ("openapi: 3.0.0\ncomponents:\n  schemas:\n    Own: 1\n" ++
        "x:\n  $ref: b.yaml#/components/schemas/X\n"))),
      ("b.yaml", .file (some "components:\n  schemas:\n    X: [1]\n"))]

/-- The schema of the root file comes first, and the other one goes to a destination beside it. -/
theorem own_part_is_kept : ∃ root read copied s bundle after members extra,
    runFrom (Session.document Bundle.ownPart [.text "api.yaml"]) .empty = (.ok root, read) ∧
    (Bundle.start Bundle.ownPart read root).run (Bundle.context Bundle.ownPart root) =
      (.ok copied, s) ∧
    runFrom (Bundle.build Bundle.ownPart [.text "api.yaml"]) .empty = (.ok bundle, after) ∧
    root.root.plainKeys? ["components", "schemas"] = some ["Own"] ∧
    bundle.document.find? ["components", "schemas"] = some (.object members) ∧
    members.map Prod.fst = ["Own"] ++ extra := by
  -- The keys of the mapping in the root file are computed; that they stay in front is the theorem.
  obtain ⟨bundle, after, built⟩ := exists_of_isOk
    (show (runFrom (Bundle.build Bundle.ownPart [.text "api.yaml"]) .empty).1.isOk = true by
      decide +kernel)
  obtain ⟨root, read, opened, own⟩ := exists_of_answers
    (show (runFrom (Session.document Bundle.ownPart [.text "api.yaml"]) .empty).1.toOption.any
      (fun root => decide (root.root.plainKeys? ["components", "schemas"] = some ["Own"])) = true by
      decide +kernel)
  have own := of_decide_eq_true own
  obtain ⟨⟨entries, span, held, keys⟩, plain⟩ := Node.of_plainKeys? own
  obtain ⟨copied, s, made⟩ := Bundle.made_of_opened opened built
  obtain ⟨members, extra, placed, grown, _⟩ :=
    root_mappings_are_kept opened made.ran built held plain
  rw [keys] at grown
  exact ⟨root, read, copied, s, bundle, after, members, extra, opened, made.ran, built, own, placed,
    grown⟩

/-- A root file with a schema of its own under the key that a schema of another file gets, of which
only a property is referenced. -/
def Bundle.sharedPart : FileTree :=
  .directory
    [("api.yaml", .file (some ("openapi: 3.0.0\ncomponents:\n  schemas:\n    b-yaml-X:\n" ++
        "      type: object\nx:\n  $ref: b.yaml#/components/schemas/X/properties/name\n"))),
      ("b.yaml", .file (some ("components:\n  schemas:\n    X:\n      properties:\n" ++
        "        name:\n          type: string\n")))]

/-- Not only places that hold parts get new keys: the property is put into the schema that the root
file defines. -/
theorem shared_part_is_edited : ∃ root read bundle after,
    runFrom (Session.document Bundle.sharedPart [.text "api.yaml"]) .empty = (.ok root, read) ∧
    runFrom (Bundle.build Bundle.sharedPart [.text "api.yaml"]) .empty = (.ok bundle, after) ∧
    root.root.plainKeys? ["components", "schemas", "b-yaml-X"] = some ["type"] ∧
    bundle.keys? ["components", "schemas", "b-yaml-X"] = some ["type", "properties"] ∧
    ¬ HoldsParts ["components", "schemas", "b-yaml-X"] := by
  -- Both the keys in the file and the keys in the bundle are computed.
  obtain ⟨bundle, after, built, grown⟩ := exists_of_answers
    (show (runFrom (Bundle.build Bundle.sharedPart [.text "api.yaml"]) .empty).1.toOption.any
      (fun bundle => decide (bundle.keys? ["components", "schemas", "b-yaml-X"] =
        some ["type", "properties"])) = true by decide +kernel)
  obtain ⟨root, read, opened, own⟩ := exists_of_answers
    (show (runFrom (Session.document Bundle.sharedPart [.text "api.yaml"]) .empty).1.toOption.any
      (fun root => decide (root.root.plainKeys? ["components", "schemas", "b-yaml-X"] =
        some ["type"])) = true by decide +kernel)
  exact ⟨root, read, bundle, after, opened, built, of_decide_eq_true own, of_decide_eq_true grown,
    by decide⟩

end SpecTrace
