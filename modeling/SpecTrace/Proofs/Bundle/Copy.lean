import Mathlib.Data.List.Nodup
import Mathlib.Data.List.Perm.Basic
import SpecTrace.Proofs.Bundle.Built

/-! What a bundle is a copy of: the nodes of the files, with every reference kept, rewritten or
replaced by what it leads to. The relation knows nothing of the walk. -/

namespace SpecTrace

/-- The members of an object with the siblings of a reference put over them. Under each key stands
the sibling that has it, the last one if there are several, or else what the object has; the
reference itself is left out. The keys of the object come first, and those that it lacks follow in
the order of the siblings. -/
structure PutOver (siblings members merged : List (String × Json)) : Prop where
  sibling : ∀ key, key ≠ referenceKey → lookupMember? merged key =
    (lookupMember? siblings.reverse key).or (lookupMember? members key)
  reference : lookupMember? merged referenceKey = lookupMember? members referenceKey
  order : ∃ fresh, merged.map Prod.fst = members.map Prod.fst ++ fresh ∧
    fresh.Sublist (siblings.map Prod.fst)
  once : (members.map Prod.fst).Nodup → (merged.map Prod.fst).Nodup

/-- What content becomes in the place of a reference with siblings: an object has them put over its
members, and anything else stays as it is. -/
inductive Merged (siblings : List (String × Json)) : Json → Json → Prop
  | object {members merged} (put : PutOver siblings members merged) :
    Merged siblings (.object members) (.object merged)
  | other {content : Json} (flat : content.members? = none) : Merged siblings content content

mutual

/-- A value copies a node of a file. References into the root file `home` lead there as before;
others lead to the destination of what they target, or make way for a copy of it, into which copies
of their siblings are merged. -/
inductive Copy (workspace : Workspace) (home : FilePath) (destination? : Source → Option Pointer) :
    FilePath → Node → Json → Prop
  | scalar {file value span} :
    Copy workspace home destination? file (.scalar value span) value.toJson
  | sequence {file items span members}
    (copies : Copies workspace home destination? file false (Node.indexed 0 items) members) :
    Copy workspace home destination? file (.sequence items span) (.array (members.map Prod.snd))
  | mapping {file entries span members}
    (plain : (Node.mapping entries span).reference? = none)
    (copies : Copies workspace home destination? file false (Node.keyed entries) members) :
    Copy workspace home destination? file (.mapping entries span) (.object members)
  | rooted {file node raw pointer target members}
    (refers : node.reference? = some raw)
    (leads : workspace.target? file raw = some (⟨home, pointer⟩, target))
    (siblings : Copies workspace home destination? file true node.children members)
    (points : lookupMember? members referenceKey =
      some (.string (if file = home then raw else pointer.fragment))) :
    Copy workspace home destination? file node (.object members)
  | moved {file node raw source target destination members}
    (refers : node.reference? = some raw)
    (leads : workspace.target? file raw = some (source, target))
    (foreign : source.file ≠ home)
    (assigned : destination? source = some destination)
    (siblings : Copies workspace home destination? file true node.children members)
    (points : lookupMember? members referenceKey = some (.string destination.fragment)) :
    Copy workspace home destination? file node (.object members)
  | inlined {file node raw source target content members}
    (refers : node.reference? = some raw)
    (leads : workspace.target? file raw = some (source, target))
    (foreign : source.file ≠ home)
    (copy : Copy workspace home destination? source.file target content)
    (siblings : Copies workspace home destination? file true node.children members)
    {value} (merged : Merged members content value) :
    Copy workspace home destination? file node value

/-- Members copy children, key by key. Beside a reference, the member that makes it one may hold
anything. -/
inductive Copies (workspace : Workspace) (home : FilePath)
    (destination? : Source → Option Pointer) :
    FilePath → (beside : Bool) → List (String × Node) → List (String × Json) → Prop
  | nil {file beside} : Copies workspace home destination? file beside [] []
  | reference {file node value rest members}
    (others : Copies workspace home destination? file true rest members) :
    Copies workspace home destination? file true ((referenceKey, node) :: rest)
      ((referenceKey, value) :: members)
  | cons {file beside segment node value rest members}
    (other : beside = true → segment ≠ referenceKey)
    (copy : Copy workspace home destination? file node value)
    (others : Copies workspace home destination? file beside rest members) :
    Copies workspace home destination? file beside ((segment, node) :: rest)
      ((segment, value) :: members)

end

/-- Members stored one after the other, but for the reference, are put over those that are there. -/
theorem putOver_foldl (siblings members : List (String × Json)) :
    PutOver siblings members ((siblings.filter fun member => member.1 ≠ referenceKey).foldl
      (fun merged member => insertMember merged member.1 member.2) members) := by
  refine ⟨fun key other => ?_, ?_, ?_, foldl_insertMember_nodup _⟩
  · -- Leaving out the reference makes no difference to other keys.
    rw [lookupMember?_foldl_insertMember, ← List.filter_reverse, lookupMember?_filter_ne _ other]
  · rw [lookupMember?_foldl_insertMember, ← List.filter_reverse, lookupMember?_filter_self,
      Option.none_or]
  · obtain ⟨fresh, keys, order⟩ := keys_foldl_insertMember
      (siblings.filter fun member => member.1 ≠ referenceKey) members
    exact ⟨fresh, keys, order.trans (List.filter_sublist.map _)⟩

/-- The walk puts siblings over content as they are merged into it. -/
theorem merged_overlay (siblings : List (String × Json)) (content : Json) :
    Merged siblings content (overlay content siblings) := by
  cases content with
  | object members => exact .object (putOver_foldl siblings members)
  | _ => exact .other rfl

/-- There is one way to put siblings over members: nothing about the outcome is left open. -/
theorem PutOver.unique {siblings members merged other : List (String × Json)}
    (distinct : (siblings.map Prod.fst).Nodup) (once : (members.map Prod.fst).Nodup)
    (left : PutOver siblings members merged) (right : PutOver siblings members other) :
    merged = other := by
  -- The two outcomes answer every lookup alike, so it is left to see that they have the same keys
  -- in the same order.
  have same (key : String) : lookupMember? merged key = lookupMember? other key := by
    by_cases reference : key = referenceKey
    · rw [reference, left.reference, right.reference]
    · rw [left.sibling key reference, right.sibling key reference]
  obtain ⟨fresh, keys, order⟩ := left.order
  obtain ⟨added, otherKeys, otherOrder⟩ := right.order
  -- Where the same keys are found, the same keys are new, and both stand in the siblings' order.
  have present (key : String) :
      key ∈ members.map Prod.fst ++ fresh ↔ key ∈ members.map Prod.fst ++ added := by
    rw [← keys, ← otherKeys, ← lookupMember?_isSome_iff, ← lookupMember?_isSome_iff, same]
  have leftOnce := List.nodup_append.mp (keys ▸ left.once once)
  have rightOnce := List.nodup_append.mp (otherKeys ▸ right.once once)
  have equal : fresh = added := by
    refine (List.Nodup.perm_iff_eq_of_sublist distinct order otherOrder).mp
      ((List.perm_ext_iff_of_nodup leftOnce.2.1 rightOnce.2.1).mpr fun key => ?_)
    have apart := present key
    simp only [List.mem_append] at apart
    constructor
    · intro here
      exact (apart.mp (.inr here)).resolve_left fun old =>
        leftOnce.2.2 key old key here rfl
    · intro here
      exact (apart.mpr (.inr here)).resolve_left fun old =>
        rightOnce.2.2 key old key here rfl
  exact eq_of_lookupMember?_eq (by rw [keys, otherKeys, equal]) (left.once once) same

/-- Where no key is repeated, merging siblings into content is what the walk does. -/
theorem merged_iff {siblings : List (String × Json)} {content value : Json}
    (distinct : (siblings.map Prod.fst).Nodup)
    (once : ∀ members, content = .object members → (members.map Prod.fst).Nodup) :
    Merged siblings content value ↔ value = overlay content siblings := by
  -- The overlay is one way to merge, and where no key is repeated there is no other.
  constructor
  · intro merged
    cases merged with
    | object put =>
      rw [put.unique distinct (once _ rfl) (putOver_foldl _ _)]
      rfl
    | other flat => cases content <;> first | rfl | cases flat
  · rintro rfl
    exact merged_overlay siblings content

section

variable {workspace : Workspace} {home file : FilePath} {destinations : Source → Option Pointer}

/-- Copies have the keys of the children, in their order. -/
theorem Copies.keys : {beside : Bool} → {children : List (String × Node)} →
    {members : List (String × Json)} →
    Copies workspace home destinations file beside children members →
      members.map Prod.fst = children.map Prod.fst
  | _, _, _, .nil => rfl
  | _, _, _, .reference others => by simp [others.keys]
  | _, _, _, .cons _ _ others => by simp [others.keys]

/-- What the member of a reference holds does not matter to its siblings. -/
theorem Copies.insert_reference (value : Json) :
    {children : List (String × Node)} → {members : List (String × Json)} →
    Copies workspace home destinations file true children members →
      referenceKey ∈ members.map Prod.fst →
        Copies workspace home destinations file true children
          (insertMember members referenceKey value)
  | _, _, .nil, present => by simp at present
  | _, _, .reference others, _ => by
    -- The reference comes first, and only its value changes.
    simp only [insertMember, if_true]
    exact .reference others
  | _, _, .cons other copy others, present => by
    -- The reference is among the later members.
    have later := other rfl
    simp only [insertMember, if_neg later]
    simp only [List.map_cons, List.mem_cons, Ne.symm later, false_or] at present
    exact .cons other copy (others.insert_reference value present)

end

/-- A destination is known from the moment on at which it is reserved. -/
theorem destination?_reserve {s : BundleState} {source : Source} {destination : Pointer}
    (new : s.known? source = none) :
    (s.reserve source destination).destination? source = some destination := by
  unfold BundleState.known? at new
  simp [BundleState.destination?, BundleState.known?, BundleState.reserve, List.find?_append, new]

/-- A source that is moved has its destination when its content is filled in. -/
theorem Walked.destination?_moved {context : BundleContext} {depth : Nat} {visit : Visit}
    {s t : BundleState} {source : Source} {destination : Pointer} {content : Json}
    (walked : Walked context depth visit (s.reserve source destination) content t)
    (new : s.known? source = none) :
    (t.fill source content).destination? source = some destination := by
  have filling : BundleStep context t (t.fill source content) := .fill source content
  exact filling.destination? (walked.steps.destination? (destination?_reserve new))

/-- Beside a reference, walked members still spell it. -/
theorem WalkedChildren.lookup_reference {context : BundleContext} {depth : Nat} {visit : Visit} :
    {children : List (String × Node)} → {s s' : BundleState} → {members : List (String × Json)} →
    WalkedChildren context depth visit true children s members s' →
      lookupMember? members referenceKey =
        (lookupMember? children referenceKey).map Node.toJson
  -- Other members have other keys, so the search passes them on both sides.
  | _, _, _, _, .nil => rfl
  | _, _, _, _, .reference _ => by simp [lookupMember?_cons]
  | _, _, _, _, .cons walks _ others => by
    simp [lookupMember?_cons, walks rfl, others.lookup_reference]

/-- Every destination that a state has reserved is one of a map. -/
def BundleState.Within (s : BundleState) (destinations : Source → Option Pointer) : Prop :=
  ∀ source destination, s.destination? source = some destination →
    destinations source = some destination

/-- What holds all destinations of a later state holds those of an earlier one. -/
theorem BundleState.Within.earlier {context : BundleContext} {s t : BundleState}
    {destinations : Source → Option Pointer} (within : t.Within destinations)
    (steps : BundleSteps context s t) : s.Within destinations :=
  fun source destination assigned => within source destination (steps.destination? assigned)

/-- The text of a reference is what its mapping holds under the key of references. -/
theorem lookup_of_reference? {node : Node} {raw : String} (refers : node.reference? = some raw) :
    (lookupMember? node.children referenceKey).map Node.toJson = some (.string raw) := by
  obtain ⟨entries, span, rfl⟩ := Node.mapping_of_reference? refers
  -- The mapping holds a text under the key.
  unfold Node.reference? at refers
  rw [Node.get?_mapping] at refers
  split at refers
  · rename_i found
    cases refers
    simp [Node.children, found, Node.toJson, Scalar.toJson]
  · cases refers

/-- Members of a mapping that copy the children of a reference and spell what it points at copy
the reference. -/
theorem setReference_copies {workspace : Workspace} {home file : FilePath}
    {destinations : Source → Option Pointer} {children : List (String × Node)}
    {members : List (String × Json)}
    (siblings : Copies workspace home destinations file true children members)
    {text : String} (spelled : lookupMember? members referenceKey = some (.string text))
    (pointer : Pointer) :
    Copies workspace home destinations file true children (setReference members pointer) ∧
      lookupMember? (setReference members pointer) referenceKey =
        some (.string pointer.fragment) := by
  -- The reference is there, so setting it adds no key.
  have present : referenceKey ∈ members.map Prod.fst :=
    lookupMember?_isSome_iff.mp (by rw [spelled]; rfl)
  exact ⟨siblings.insert_reference _ present, lookupMember?_insertMember_self _ _ _⟩

mutual

/-- A walked value copies its node, whatever destinations are added later. -/
theorem Walked.copy {context : BundleContext} {workspace : Workspace}
    {destinations : Source → Option Pointer} {depth : Nat} {visit : Visit} {s s' : BundleState}
    {value : Json} : Walked context depth visit s value s' →
      s.session.workspace context.tree = workspace → s'.Within destinations →
        Copy workspace context.root.path destinations visit.origin.file visit.node value
  -- The recursion is that of the walk. What was seen and reserved on the way is still there at the
  -- end.
  | .scalar shape, _, _ => by
    rw [shape]
    exact .scalar
  | .sequence shape children, seen, within => by
    have copies := children.copy seen within
    rw [shape] at copies ⊢
    exact .sequence copies
  | .mapping shape plain children, seen, within => by
    have copies := children.copy seen within
    rw [shape] at copies plain ⊢
    exact .mapping plain copies
  | .reference refers answered siblings, seen, within => by
    -- The siblings are walked with the files as they were, after the reference was answered.
    have copies := siblings.copy (answered.steps.workspace.trans seen) within
    have spelled := siblings.lookup_reference.trans (lookup_of_reference? refers)
    exact answered.copy seen (within.earlier siblings.steps) refers copies spelled

/-- A reference with its answer copies its node, if the members beside it copy theirs. -/
theorem Answered.copy {context : BundleContext} {workspace : Workspace}
    {destinations : Source → Option Pointer} {depth : Nat} {visit : Visit} {raw : String}
    {s s' : BundleState} {answer : Answer} {members : List (String × Json)} :
    Answered context depth visit raw s answer s' →
      s.session.workspace context.tree = workspace → s'.Within destinations →
        visit.node.reference? = some raw →
        Copies workspace context.root.path destinations visit.origin.file true
          visit.node.children members →
        lookupMember? members referenceKey = some (.string raw) →
          Copy workspace context.root.path destinations visit.origin.file visit.node
            (answer.complete members)
  -- In each case the reference leads to its target in the files as they were at the beginning.
  -- Each answer is a case of the copy, and the reference leads in the files where it led in the
  -- walk.
  | .kept reads home inside, seen, _, refers, copies, spelled => by
    have leads := reads.target?
    rw [seen, sourceIn, home] at leads
    exact .rooted refers leads copies (by rw [if_pos inside]; exact spelled)
  | .rooted reads home outside, seen, _, refers, copies, spelled => by
    have leads := reads.target?
    rw [seen, sourceIn, home] at leads
    obtain ⟨others, points⟩ := setReference_copies copies spelled (Reference.parse raw).pointer
    exact .rooted refers leads others (by rw [if_neg outside]; exact points)
  | .reused leaves known, seen, within, refers, copies, spelled => by
    have leads := leaves.target?
    rw [seen] at leads
    obtain ⟨others, points⟩ := setReference_copies copies spelled _
    refine .moved refers leads leaves.foreign (within _ _ ?_) others points
    rw [BundleState.destination?, known]
    rfl
  | .moved leaves new _ free walked, seen, within, refers, copies, spelled => by
    have leads := leaves.target?
    rw [seen] at leads
    obtain ⟨others, points⟩ := setReference_copies copies spelled _
    refine .moved refers leads leaves.foreign (within _ _ ?_) others points
    -- The destination was reserved before the content was walked.
    exact walked.destination?_moved new
  | .replaced leaves _ _ _ walked, seen, within, refers, copies, _ => by
    have leads := leaves.target?
    rw [seen] at leads
    have content := walked.copy ((loadTarget_steps leaves.loaded).workspace.trans seen) within
    exact .inlined refers leads leaves.foreign content copies (merged_overlay _ _)

/-- Walked members copy the children. -/
theorem WalkedChildren.copy {context : BundleContext} {workspace : Workspace}
    {destinations : Source → Option Pointer} {depth : Nat} {visit : Visit} {beside : Bool}
    {children : List (String × Node)} {s s' : BundleState} {members : List (String × Json)} :
    WalkedChildren context depth visit beside children s members s' →
      s.session.workspace context.tree = workspace → s'.Within destinations →
        Copies workspace context.root.path destinations visit.origin.file beside children members
  -- Each member is walked in the state its predecessor left, so both facts are carried along.
  | .nil, _, _ => .nil
  | .reference others, seen, within => .reference (others.copy seen within)
  | .cons walks walked others, seen, within =>
    .cons walks (walked.copy seen (within.earlier others.steps))
      (others.copy (walked.steps.workspace.trans seen) within)

end

/-- The sources with a destination are those of the relocations. -/
theorem BundleState.mem_of_destination? {s : BundleState} {source : Source} {destination : Pointer}
    (assigned : s.destination? source = some destination) :
    ∃ relocation ∈ s.relocations, relocation.source = source ∧
      relocation.destination = destination := by
  -- The destination is that of the relocation which is found.
  obtain ⟨relocation, known, same⟩ := Option.map_eq_some_iff.mp assigned
  exact ⟨relocation, s.known?_mem known, s.known?_source known, same⟩

/-- Where sources occur once, each relocation tells the destination of its source. -/
theorem BundleState.destination?_of_mem {s : BundleState} (once : s.sources.Nodup)
    {relocation : Relocation} (member : relocation ∈ s.relocations) :
    s.destination? relocation.source = some relocation.destination := by
  -- The source is known, and by no other relocation.
  cases known : s.known? relocation.source with
  | none => exact absurd (List.mem_map_of_mem member) (s.known?_eq_none_iff.mp known)
  | some other =>
    -- The relocation that is found has the same source, so it is the same one.
    have same := List.inj_on_of_nodup_map once (s.known?_mem known) member (s.known?_source known)
    simp [BundleState.destination?, known, same]

/-- A bundle is a faithful copy of the reference graph. The root file is copied, every source with
a destination is copied there, and apart from that the copy of the root file stays as it is: it has
the same values at pointers unrelated to destinations, and above destinations objects that keep
their keys in front of new ones. -/
theorem build_copies_references {tree : FileTree} {path : List PathName}
    {session after : Session} {bundle : Bundle}
    (built : runFrom (Bundle.build tree path) session = (.ok bundle, after)) :
    ∃ (root : Document) (destinations : Source → Option Pointer) (copied : Json),
      (∃ place, tree.resolve path = .ok place ∧ session.documentAt? tree place = some root) ∧
      Copy (session.workspace tree) root.path destinations root.path root.root copied ∧
      (∀ source destination, destinations source = some destination →
        ∃ node content, (session.workspace tree).node? source = some node ∧
          Copy (session.workspace tree) root.path destinations source.file node content ∧
          copied.find? destination = none ∧
          bundle.document.find? destination = some content) ∧
      (∀ p, (∀ source destination, destinations source = some destination →
          related destination p = false) →
        bundle.document.find? p = copied.find? p) ∧
      (∀ p, (∀ source destination, destinations source = some destination →
          ¬ destination <+: p) →
        ∀ source destination, destinations source = some destination → p <+: destination →
          ∃ members members', Json.membersOrNone (copied.find? p) = some members ∧
            Json.membersOrNone (bundle.document.find? p) = some members' ∧
            members.map Prod.fst <+: members'.map Prod.fst) := by
  obtain ⟨root, read, copied, s, made⟩ := Bundle.made_of_build built
  -- The destinations are those that the walk ended with.
  have within : s.Within s.destination? := fun _ _ assigned => assigned
  -- The files look the same from before the root file is read until after the walk.
  have seen : read.workspace tree = session.workspace tree := by
    rw [Session.workspace, Session.workspace, Session.document_keeps made.opened]
  have each : ∀ relocation ∈ s.relocations, ∀ p : Pointer,
      (∀ source destination, s.destination? source = some destination →
        ¬ destination <+: p) → ¬ relocation.destination <+: p := fun relocation member p outside =>
    outside _ _ (BundleState.destination?_of_mem made.separate.once member)
  refine ⟨root, s.destination?, copied, Session.document_answer made.opened,
    made.walked.copy seen within, ?_, ?_, ?_⟩
  · intro source destination assigned
    -- Every destination belongs to a relocation, whose content was walked.
    obtain ⟨relocation, member, rfl, rfl⟩ := BundleState.mem_of_destination? assigned
    obtain ⟨node, content, settled, placed⟩ := made.settled member
    obtain ⟨depth, before, ended, later, walked⟩ := settled.walked
    refine ⟨node, content, made.workspace ▸ settled.named, ?_,
      Bundle.find?_of_place made.placed made.separate.pairwise member, placed⟩
    -- The walk of the content saw the same files and ended with no other destinations.
    have ending : BundleSteps (Bundle.context tree root) before s := walked.steps.trans later
    have saw : before.session.workspace tree = session.workspace tree :=
      ending.workspace.symm.trans made.workspace
    exact walked.copy saw (within.earlier later)
  · intro p apart
    -- Placing content changes nothing at unrelated pointers.
    refine Bundle.find?_place_unrelated made.placed fun relocation member => ?_
    exact apart _ _ (BundleState.destination?_of_mem made.separate.once member)
  · intro p outside source destination assigned above
    obtain ⟨relocation, member, rfl, rfl⟩ := BundleState.mem_of_destination? assigned
    exact Bundle.find?_place_above made.placed
      (fun other present => each other present p outside) member above

/-- A root file that refers to a schema of another file, and with a sibling to content that has no
place of its own. -/
def Bundle.movedAndInlined : FileTree :=
  .directory
    [("api.yaml", .file (some ("openapi: 3.0.0\nx:\n  $ref: b.yaml#/components/schemas/X\n" ++
        "y:\n  $ref: b.yaml#/B\n  k: own\n"))),
      ("b.yaml", .file (some "components:\n  schemas:\n    X: [1]\nB:\n  k: other\n  m: more\n"))]

/-- The bundle has the schema at its destination and the content in the place of its reference, with
the sibling put over it, and it is a copy in every respect. -/
theorem two_files_are_copied : ∃ bundle after,
    runFrom (Bundle.build Bundle.movedAndInlined [.text "api.yaml"]) .empty = (.ok bundle, after) ∧
    (bundle.document.find? ["components", "schemas", "b-yaml-X", "0"]).isSome = true ∧
    (bundle.document.find? ["y", "k"]).bind Json.string? = some "own" ∧
    (bundle.document.find? ["y", "m"]).bind Json.string? = some "more" ∧
    ∃ (root : Document) (destinations : Source → Option Pointer) (copied : Json),
      (∃ place, Bundle.movedAndInlined.resolve [.text "api.yaml"] = .ok place ∧
        Session.empty.documentAt? Bundle.movedAndInlined place = some root) ∧
      Copy (Session.empty.workspace Bundle.movedAndInlined) root.path destinations root.path
        root.root copied ∧
      (∀ source destination, destinations source = some destination →
        ∃ node content,
          (Session.empty.workspace Bundle.movedAndInlined).node? source = some node ∧
          Copy (Session.empty.workspace Bundle.movedAndInlined) root.path destinations source.file
            node content ∧
          copied.find? destination = none ∧
          bundle.document.find? destination = some content) ∧
      (∀ p, (∀ source destination, destinations source = some destination →
          related destination p = false) →
        bundle.document.find? p = copied.find? p) ∧
      (∀ p, (∀ source destination, destinations source = some destination →
          ¬ destination <+: p) →
        ∀ source destination, destinations source = some destination → p <+: destination →
          ∃ members members', Json.membersOrNone (copied.find? p) = some members ∧
            Json.membersOrNone (bundle.document.find? p) = some members' ∧
            members.map Prod.fst <+: members'.map Prod.fst) := by
  -- The run is evaluated for the three places; the copy itself is the theorem about every bundle.
  obtain ⟨bundle, after, built, facts⟩ := exists_of_answers
    (show (runFrom (Bundle.build Bundle.movedAndInlined [.text "api.yaml"]) .empty).1.toOption.any
      (fun bundle => decide
        ((bundle.document.find? ["components", "schemas", "b-yaml-X", "0"]).isSome = true ∧
          (bundle.document.find? ["y", "k"]).bind Json.string? = some "own" ∧
          (bundle.document.find? ["y", "m"]).bind Json.string? = some "more")) = true by
      decide +kernel)
  obtain ⟨moved, sibling, inlined⟩ := of_decide_eq_true facts
  exact ⟨bundle, after, built, moved, sibling, inlined, build_copies_references built⟩

end SpecTrace
