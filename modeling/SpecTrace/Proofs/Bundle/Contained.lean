import SpecTrace.Proofs.Bundle.Spelled
import SpecTrace.Proofs.Pointer.Fragment
import SpecTrace.Proofs.Workspace.Sources

/-! What the references of a bundle lead to: to the bundle itself, except where the root file
spells its own name or inlining took a node away. -/

namespace SpecTrace

/-- A recorded place on the way along a pointer holds an object. -/
def ObjectsOn (tree : Provenance) (site : Pointer) (value : Json) (p : Pointer) : Prop :=
  ∀ q segment rest held, p = q ++ segment :: rest → tree.Records (site ++ q) →
    value.find? q = some held → ∃ members, held = .object members

/-- What holds on the way along a pointer holds behind its first segment. -/
theorem ObjectsOn.tail {tree later : Provenance} {site : Pointer} {value below : Json}
    {segment : String} {p : Pointer} (objects : ObjectsOn later site value (segment :: p))
    (held : value.child? segment = some below)
    (grows : ∀ q, tree.Records q → later.Records q) :
    ObjectsOn tree (site ++ [segment]) below p := by
  -- A place behind the segment is one on the whole way.
  rintro q next rest found rfl recorded inside
  refine objects (segment :: q) next rest found rfl ?_ ?_
  · have site_eq : site ++ segment :: q = (site ++ [segment]) ++ q := by simp
    rw [site_eq]
    exact grows _ recorded
  · rw [Json.find?, held, Option.bind_some, inside]

/-- A pointer leads to something in a value that was walked at a site, or it ends with a reference in
whose place content is recorded. -/
def FoundOrReplaced (tree : Provenance) (site : Pointer) (value : Json) (p : Pointer) : Prop :=
  (value.find? p).isSome ∨ ∃ q, p = q ++ [referenceKey] ∧ tree.Records (site ++ q)

/-- What is found in a child is found in the value behind the segment of the child. -/
theorem FoundOrReplaced.cons {tree later : Provenance} {site rest : Pointer} {value below : Json}
    {segment : String} (found : FoundOrReplaced tree (site ++ [segment]) below rest)
    (held : value.child? segment = some below)
    (grows : ∀ q, tree.Records q → later.Records q) :
    FoundOrReplaced later site value (segment :: rest) := by
  rcases found with there | ⟨q, rfl, recorded⟩
  · unfold FoundOrReplaced
    rw [Json.find?, held]
    exact Or.inl there
  · -- The record below the child is one below the value.
    refine Or.inr ⟨segment :: q, rfl, ?_⟩
    have site_eq : site ++ segment :: q = (site ++ [segment]) ++ q := by simp
    rw [site_eq]
    exact grows _ recorded

section

variable {context : BundleContext} {depth : Nat} {visit : Visit} {s s₁ s' : BundleState}
  {raw : String} {answer : Answer} {members : List (String × Json)}

/-- The text of a reference is found in its value, unless content took the place of it. -/
theorem Answered.finds_reference (answered : Answered context depth visit raw s answer s₁)
    (siblings : WalkedChildren context (depth + 1) visit true visit.node.children s₁ members s')
    (refers : visit.node.reference? = some raw) :
    FoundOrReplaced s'.provenance visit.site (answer.complete members) [referenceKey] := by
  cases answer with
  | kept =>
    have text := siblings.lookup_reference.trans (lookup_of_reference? refers)
    left
    simp [Answer.complete, Json.find?, Json.child?, text]
  | pointing pointer =>
    left
    simp [Answer.complete, Json.find?, Json.child?, setReference]
  | replaced content =>
    -- The reference itself made way for the content.
    refine Or.inr ⟨[], rfl, ?_⟩
    rw [List.append_nil]
    exact siblings.steps.records answered.records

/-- The value of a reference is an object, if recorded places on a way into it hold objects. -/
theorem Answered.exists_object (answered : Answered context depth visit raw s answer s₁)
    (siblings : WalkedChildren context (depth + 1) visit true visit.node.children s₁ members s')
    {segment : String} {rest : Pointer}
    (objects : ObjectsOn s'.provenance visit.site (answer.complete members) (segment :: rest)) :
    ∃ object, answer.complete members = .object object := by
  cases answer with
  | kept => exact ⟨_, rfl⟩
  | pointing pointer => exact ⟨_, rfl⟩
  | replaced content =>
    -- The place of the content is recorded, so it holds an object.
    have recorded := siblings.steps.records answered.records
    exact objects [] segment rest _ rfl (by rw [List.append_nil]; exact recorded) rfl

end

/-- A node that a pointer leads to has a walked value at the same pointer, unless the pointer ends
with the reference that content took the place of. On the way, such content has to be an object. -/
theorem Walked.finds {context : BundleContext} {depth : Nat} {p : Pointer} {visit : Visit}
    {s s' : BundleState} {value : Json} {inner : Node}
    (walked : Walked context depth visit s value s') (distinct : visit.node.Distinct)
    (found : visit.node.find? p = some inner)
    (objects : ObjectsOn s'.provenance visit.site value p) :
    FoundOrReplaced s'.provenance visit.site value p := by
  -- By induction on the pointer: behind each segment stands the walk of a child.
  induction p generalizing visit s s' value with
  | nil => exact Or.inl rfl
  | cons segment rest ih =>
    have split := found
    rw [Node.find?_cons] at split
    obtain ⟨child, inside, further⟩ := Option.bind_eq_some_iff.mp split
    have childDistinct := distinct.child (lookupMember?_mem inside)
    -- It is enough that the child was walked and stands below the value.
    have step : ∀ {below s₁ s₂}, Walked context depth (visit.child segment child) s₁ below s₂ →
        BundleSteps context s₂ s' → value.child? segment = some below →
        FoundOrReplaced s'.provenance visit.site value (segment :: rest) := by
      intro below s₁ s₂ walkedChild after held
      have grows : ∀ q, s₂.provenance.Records q → s'.provenance.Records q :=
        fun q => after.records
      exact (ih walkedChild childDistinct further (objects.tail held grows)).cons held grows
    cases refers : visit.node.reference? with
    | none =>
      -- A node that is no reference has its children below its value.
      obtain ⟨members, children, same⟩ := walked.of_plain refers
      obtain ⟨below, s₁, s₂, held, walkedChild, _, after⟩ := children.child inside (by simp)
      exact step walkedChild after (by rw [same, held])
    | some raw =>
      cases depth with
      | zero => cases walked
      | succ depth =>
        obtain ⟨answer, s₁, members, answered, siblings, rfl⟩ := walked.of_reference refers
        by_cases own : segment = referenceKey
        · -- The pointer ends at the text of the reference.
          subst own
          obtain rfl := Node.find?_reference refers found
          exact answered.finds_reference siblings refers
        · -- The siblings stand in the object that the reference becomes.
          obtain ⟨object, shape⟩ := answered.exists_object siblings objects
          have keys : (members.map Prod.fst).Nodup := by
            rw [siblings.keys]
            exact distinct.keys
          obtain ⟨below, s₂, s₃, held, walkedChild, _, after⟩ :=
            siblings.child inside (fun _ => own)
          exact step walkedChild after (Answer.child?_complete shape keys held own)

namespace Bundle

/-- The reference that the object at a pointer of a bundle is. -/
def referenceAt? (bundle : Bundle) (p : Pointer) : Option String :=
  (bundle.document.find? p).bind fun value => value.members?.bind referenceText?

/-- Content that came to the way along a pointer blocks it: the content is no object, or it has no
reference where the pointer goes on there. -/
def Blocks (bundle : Bundle) (p : Pointer) : Prop :=
  ∃ q segment rest, p = q ++ segment :: rest ∧ bundle.provenance.Records q ∧
    ∀ members, bundle.document.find? q = some (.object members) →
      segment = referenceKey ∧ referenceKey ∉ members.map Prod.fst

/-- A reference of a bundle stands below its object. -/
theorem find?_of_referenceAt? {bundle : Bundle} {p : Pointer} {raw : String}
    (refers : bundle.referenceAt? p = some raw) :
    bundle.document.find? (p ++ [referenceKey]) = some (.string raw) := by
  -- There is an object at the pointer, with a text under the key.
  obtain ⟨value, found, inside⟩ := Option.bind_eq_some_iff.mp refers
  obtain ⟨members, shape, text⟩ := Option.bind_eq_some_iff.mp inside
  cases value with
  | object held =>
    cases shape
    obtain ⟨below, held, is⟩ := Option.bind_eq_some_iff.mp text
    -- Only a string is the text of a reference.
    cases below with
    | string _ =>
      cases is
      rw [Json.find?_append, found, Option.bind_some]
      simp [Json.find?, Json.child?, held]
    | _ => cases is
  | _ => cases shape

section

variable {tree : FileTree} {path : List PathName} {session : Session} {bundle : Bundle}
  {root : Document} {read : Session} {copied : Json} {s : BundleState}

/-- The place of the root file has the document that was bundled. -/
theorem Made.home (made : Made tree path session bundle root read copied s) :
    (session.workspace tree).document? root.path = some root := by
  obtain ⟨place, _, found⟩ := Session.document_answer made.opened
  rw [Session.documentAt?_path found]
  exact found

/-- In a faithful session, the root file repeats no keys. -/
theorem Made.distinct (made : Made tree path session bundle root read copied s)
    (faithful : session.Faithful) : root.root.Distinct := by
  exact (Session.documentAt?_faithful faithful made.home).shape.2

/-- Every destination behind a bundle is recorded. -/
theorem Made.recorded (made : Made tree path session bundle root read copied s) : s.Recorded :=
  made.walked.steps.recorded (by simp [BundleState.Recorded])

/-- Every text under the key of references in a bundle is one that it spells, whether it stands in
moved content or in what was walked of the root file. -/
theorem Made.spelled (made : Made tree path session bundle root read copied s)
    (faithful : session.Faithful) {p : Pointer} {raw : String}
    (found : bundle.document.find? (p ++ [referenceKey]) = some (.string raw)) :
    Spelled (context tree root) (session.workspace tree) s p raw := by
  have distinct := made.distinct faithful
  -- Moved content stands below a destination; anything else is what was walked of the root file.
  by_cases below : ∃ relocation ∈ s.relocations, relocation.destination <+: p ++ [referenceKey]
  · obtain ⟨relocation, member, rest, split⟩ := below
    obtain ⟨node, content, settled, placed⟩ := made.settled member
    rw [← split, Json.find?_append, placed, Option.bind_some] at found
    rcases List.eq_nil_or_concat rest with rfl | ⟨inner, last, rfl⟩
    · -- The text itself was moved.
      rw [List.append_nil] at split
      exact .carried (split ▸ made.recorded relocation member)
    · rw [List.concat_eq_append] at split found
      rw [← List.append_assoc] at split
      obtain ⟨rfl, last⟩ := List.append_inj' split rfl
      cases last
      obtain ⟨depth, before, after, ending, walked⟩ := settled.walked
      -- The walk of the content saw the files that the bundle was started with.
      have saw : BundleSteps (context tree root) before s := walked.steps.trans ending
      exact (spelledWithin made.home distinct depth walked
        (saw.workspace.symm.trans made.workspace)
        (fun inRoot => absurd inRoot settled.foreign) found).steps ending
  · by_cases above : ∃ relocation ∈ s.relocations, p ++ [referenceKey] <+: relocation.destination
    · obtain ⟨relocation, member, rest, split⟩ := above
      obtain ⟨node, content, _, placed⟩ := made.settled member
      rw [← split, Json.find?_append, found, Option.bind_some] at placed
      -- A text has nothing below it, so it is at the destination itself.
      obtain rfl := Json.find?_string placed
      rw [List.append_nil] at split
      exact absurd ⟨relocation, member, split ▸ List.prefix_rfl⟩ below
    · have outside : Outside s.relocations (p ++ [referenceKey]) :=
        fun relocation member inside => below ⟨relocation, member, inside⟩
      rw [find?_place_outside made.placed outside above] at found
      -- The text was walked with the root file.
      have seen := Session.document_workspace made.opened
      exact spelledWithin made.home distinct _ made.walked seen (fun _ => rfl) found

/-- A node of the root file is found in the bundle, unless the way is blocked. -/
theorem Made.finds (made : Made tree path session bundle root read copied s)
    (faithful : session.Faithful) {p : Pointer} {inner : Node} (found : root.root.find? p = some inner) :
    (bundle.document.find? p).isSome ∨ bundle.Blocks p := by
  -- Without content in the way, every recorded place on the way holds an object that goes on.
  by_cases blocked : bundle.Blocks p
  · exact Or.inr blocked
  refine Or.inl ?_
  have objects : ∀ q segment rest, p = q ++ segment :: rest → s.provenance.Records q →
      ∃ members, bundle.document.find? q = some (.object members) ∧
        (segment = referenceKey → referenceKey ∈ members.map Prod.fst) := by
    intro q segment rest split recorded
    by_contra missing
    refine blocked ⟨q, segment, rest, split, made.provenance ▸ recorded, ?_⟩
    intro members held
    by_contra other
    exact missing ⟨members, held, fun own => by_contra fun absent => other ⟨own, absent⟩⟩
  have outside := made.outside found
  by_cases above : ∃ relocation ∈ s.relocations, p <+: relocation.destination
  · -- Content below the pointer was put there, so the way to it is there.
    obtain ⟨relocation, member, rest, split⟩ := above
    obtain ⟨node, content, _, placed⟩ := made.settled member
    rw [← split, Json.find?_append] at placed
    obtain ⟨value, held, _⟩ := Option.bind_eq_some_iff.mp placed
    rw [held]
    rfl
  · -- The pointer is unrelated to all destinations, so the copy of the root file decides.
    have way : ObjectsOn s.provenance [] copied p := by
      rintro q segment rest held rfl recorded inside
      obtain ⟨members, object, _⟩ := objects q segment rest rfl recorded
      exact object_of_place made.placed
        (fun relocation member inside =>
          outside relocation member (inside.trans (List.prefix_append _ _))) inside object
    rcases made.walked.finds (made.distinct faithful) found way with there | ⟨q, rfl, recorded⟩
    · rw [find?_place_outside made.placed outside above]
      exact there
    · -- The reference is there in spite of the content.
      obtain ⟨members, object, present⟩ := objects q referenceKey [] rfl recorded
      rw [Json.find?_append, object, Option.bind_some]
      have kept := lookupMember?_isSome_iff.mpr (present rfl)
      obtain ⟨value, held⟩ := Option.isSome_iff_exists.mp kept
      simp [Json.find?, Json.child?, held]

end

end Bundle

/-- A bundle is self-contained. Every reference of the merged document starts with a number sign, or
the root file wrote it to refer to itself by its own name, which is kept by design: the walk checks
for the root file before it rewrites anything. It leads to a node of the document. Nothing is said
where the walk slips: of a rewritten pointer that looks percent-encoded, since its fragment is
written without an encoding and decoded when it is read, and of a pointer into inlined content that
blocks the way. Texts that were themselves moved or inlined under the key of references are left out
too. -/
theorem build_is_self_contained {tree : FileTree} {path : List PathName} {session after : Session}
    {bundle : Bundle} (faithful : session.Faithful)
    (built : runFrom (Bundle.build tree path) session = (.ok bundle, after)) :
    ∃ root, (∃ place, tree.resolve path = .ok place ∧
        session.documentAt? tree place = some root) ∧
      ∀ p raw, bundle.referenceAt? p = some raw →
        ¬ bundle.provenance.Records (p ++ [referenceKey]) →
        (raw.toList.head? = some '#' ∨ KeptAsWritten (session.workspace tree) root p raw) ∧
        (Percent.Plain raw.toList ∨ KeptAsWritten (session.workspace tree) root p raw →
          (bundle.document.find? (Reference.parse raw).pointer).isSome ∨
            bundle.Blocks (Reference.parse raw).pointer) := by
  obtain ⟨root, read, copied, s, made⟩ := Bundle.made_of_build built
  refine ⟨root, Session.document_answer made.opened, ?_⟩
  intro p raw refers unrecorded
  -- What the root file wrote targets a node of the root file.
  have kept : KeptAsWritten (session.workspace tree) root p raw →
      (bundle.document.find? (Reference.parse raw).pointer).isSome ∨
        bundle.Blocks (Reference.parse raw).pointer := by
    rintro ⟨_, target, _, _, leads⟩
    have found := Workspace.node?_of_target? leads
    rw [Workspace.node?, made.home, Option.bind_some] at found
    exact made.finds faithful found
  cases made.spelled faithful (Bundle.find?_of_referenceAt? refers) with
  | carried recorded => exact absurd (made.provenance ▸ recorded) unrecorded
  | kept written => exact ⟨Or.inr written, fun _ => kept written⟩
  | rooted text stands =>
    subst text
    refine ⟨Or.inl (by rw [Pointer.toList_fragment]; rfl), ?_⟩
    rintro (plain | written)
    · obtain ⟨node, found⟩ := Option.isSome_iff_exists.mp stands
      -- The text is read back as the pointer that it spells.
      rw [Reference.parse_fragment plain]
      exact made.finds faithful found
    · exact kept written
  | moved text assigned =>
    subst text
    refine ⟨Or.inl (by rw [Pointer.toList_fragment]; rfl), ?_⟩
    rintro (plain | written)
    · -- Content was put at the destination.
      obtain ⟨relocation, member, _, rfl⟩ := BundleState.mem_of_destination? assigned
      obtain ⟨_, _, _, placed⟩ := made.settled member
      rw [Reference.parse_fragment plain, placed]
      exact Or.inl rfl
    · exact kept written

/-- The bundle of two files holds what its reference points at. -/
theorem two_files_are_self_contained : ∃ bundle after,
    runFrom (Bundle.build Bundle.twoFiles [.text "api.yaml"]) .empty = (.ok bundle, after) ∧
    bundle.referenceAt? ["x"] = some "#/components/schemas/b-yaml-X" ∧
    ¬ bundle.provenance.Records ["x", referenceKey] ∧
    ((bundle.document.find? (Reference.parse "#/components/schemas/b-yaml-X").pointer).isSome ∨
      bundle.Blocks (Reference.parse "#/components/schemas/b-yaml-X").pointer) := by
  -- The reference that is asked about is spelled without a percent sign, so it leads to a node.
  obtain ⟨bundle, after, built, facts⟩ := exists_of_answers
    (show (runFrom (Bundle.build Bundle.twoFiles [.text "api.yaml"]) .empty).1.toOption.any
      (fun bundle => decide (bundle.referenceAt? ["x"] = some "#/components/schemas/b-yaml-X" ∧
        ["x", referenceKey] ∉ bundle.provenance.records.map Prod.fst)) = true by
      decide +kernel)
  obtain ⟨refers, unrecorded⟩ := of_decide_eq_true facts
  obtain ⟨_, _, contained⟩ := build_is_self_contained Session.faithful_empty built
  have plain : Percent.Plain "#/components/schemas/b-yaml-X".toList :=
    Percent.plain_of_not_mem (by decide)
  exact ⟨bundle, after, built, refers, unrecorded,
    (contained ["x"] _ refers unrecorded).2 (Or.inl plain)⟩

/-- A reference of a bundle does not start with a number sign, or it leads to no node. -/
def Bundle.Dangles (bundle : Bundle) (p : Pointer) (raw : String) : Prop :=
  bundle.referenceAt? p = some raw ∧ (raw.toList.head? ≠ some '#' ∨
    (bundle.document.find? (Reference.parse raw).pointer).isNone = true)

instance (bundle : Bundle) (p : Pointer) (raw : String) : Decidable (bundle.Dangles p raw) :=
  inferInstanceAs (Decidable (_ ∧ _))

/-- A root file whose bundle has four loose ends. `own` names the root file itself, which is kept as
it is by design. Two are slips: `schema` moves a key whose fragment is read back as another one, and
`lost` refers to a member that inlining removes. `bare` was no reference before: what stood under its
key made way for a text. -/
def Bundle.looseEnds : FileTree :=
  .directory
    [("a.yaml", .file (some ("openapi: 3.0.0\nown:\n $ref: a.yaml#/lost\n" ++
        "schema:\n $ref: b.yaml#/%41\nlost:\n $ref: '#/gone/d'\n" ++
        "gone:\n $ref: b.yaml#/B\n d: 1\nbare:\n $ref:\n  $ref: b.yaml#/B\n"))),
      ("b.yaml", .file (some "A: 1\nB: word\n"))]

/-- Not every reference of a bundle starts with a number sign and leads to a node of it, by design, by
slips of the walk, and where a text was moved. -/
theorem loose_ends_dangle : ∃ bundle after,
    runFrom (Bundle.build Bundle.looseEnds [.text "a.yaml"]) .empty = (.ok bundle, after) ∧
    bundle.Dangles ["own"] "a.yaml#/lost" ∧
    bundle.Dangles ["schema"] "#/components/schemas/b-yaml-%41" ∧
    bundle.Dangles ["lost"] "#/gone/d" ∧
    bundle.Dangles ["bare"] "word" := by
  -- One run shows all four: the reference by file name, the encoded key, the hidden key and the
  -- bare word.
  obtain ⟨bundle, after, built, facts⟩ := exists_of_answers
    (show (runFrom (Bundle.build Bundle.looseEnds [.text "a.yaml"]) .empty).1.toOption.any
      (fun bundle => decide (bundle.Dangles ["own"] "a.yaml#/lost" ∧
        bundle.Dangles ["schema"] "#/components/schemas/b-yaml-%41" ∧
        bundle.Dangles ["lost"] "#/gone/d" ∧ bundle.Dangles ["bare"] "word")) = true by
      decide +kernel)
  exact ⟨bundle, after, built, of_decide_eq_true facts⟩

end SpecTrace
