import SpecTrace.Proofs.Bundle.Steps
import SpecTrace.Proofs.Json.Insertion

/-! What holds of every state that a bundle is built through: documents stay, destinations stay,
no two sources meet at a destination, and each relocation that a walk adds holds what the walk made
of its source. -/

namespace SpecTrace

open Relation

/-- No two sources share anything: each has one relocation, and its destination is neither a place
of the root file nor related to the destination of another source. -/
structure Separate (context : BundleContext) (s : BundleState) : Prop where
  once : s.sources.Nodup
  apart : ∀ one ∈ s.relocations, ∀ other ∈ s.relocations, one.source ≠ other.source →
    related one.destination other.destination = false
  vacant : ∀ relocation ∈ s.relocations, context.root.root.find? relocation.destination = none

/-- Filling in content changes no source. -/
@[simp] theorem sources_fill (s : BundleState) (source : Source) (content : Json) :
    (s.fill source content).sources = s.sources := by
  simp only [BundleState.sources, BundleState.fill, List.map_map]
  -- Either way a relocation is changed in its content only.
  refine List.map_congr_left fun relocation _ => ?_
  by_cases same : relocation.source = source <;> simp [same]

/-- Every relocation after a content was filled in has the source and the destination of one
before. -/
theorem mem_fill {s : BundleState} {source : Source} {content : Json} {relocation : Relocation}
    (member : relocation ∈ (s.fill source content).relocations) :
    ∃ former ∈ s.relocations, former.source = relocation.source ∧
      former.destination = relocation.destination := by
  obtain ⟨former, present, rfl⟩ := List.mem_map.mp member
  refine ⟨former, present, ?_⟩
  by_cases same : former.source = source <;> simp [same]

/-- Filling in the content of an unknown source changes nothing. -/
theorem fill_of_not_mem {relocations : List Relocation} {source : Source}
    (unknown : source ∉ relocations.map Relocation.source) (content : Json) :
    (relocations.map fun relocation =>
      if relocation.source = source then { relocation with content := some content }
      else relocation) = relocations := by
  refine (List.map_congr_left fun relocation member => ?_).trans (List.map_id relocations)
  -- The source would be one of those of the relocations.
  have other : relocation.source ≠ source := by
    intro same
    exact unknown (List.mem_map.mpr ⟨relocation, member, same⟩)
  simp [other]

/-- Before anything is reserved, nothing can meet. -/
theorem separate_empty (context : BundleContext) (session : Session) :
    Separate context ⟨session, [], .empty⟩ where
  once := List.nodup_nil
  apart := by simp
  vacant := by simp

/-- A step that reserves a destination keeps sources separate, since it looks at all others. -/
theorem Separate.reserve {context : BundleContext} {s : BundleState} {source : Source}
    {destination : Pointer} (separate : Separate context s) (new : s.known? source = none)
    (free : Free context s source destination) :
    Separate context (s.reserve source destination) := by
  have unknown := BundleState.known?_eq_none_iff.mp new
  refine ⟨?_, ?_, ?_⟩
  · -- The new source comes last and was not there before.
    simp only [BundleState.sources, BundleState.reserve, List.map_append, List.map_cons,
      List.map_nil]
    refine List.nodup_append.mpr ⟨separate.once, by simp, ?_⟩
    intro other known latest last same
    rw [List.mem_singleton] at last
    exact unknown (last ▸ same ▸ known)
  · -- Two relocations are both old, or one of them is the new one.
    intro one first other second different
    simp only [BundleState.reserve, List.mem_append, List.mem_singleton] at first second
    rcases first with first | rfl <;> rcases second with second | rfl
    · exact separate.apart one first other second different
    · exact free.apart one first different
    · rw [related_comm]
      exact free.apart other second (Ne.symm different)
    · exact absurd rfl different
  · intro relocation member
    simp only [BundleState.reserve, List.mem_append, List.mem_singleton] at member
    rcases member with member | rfl
    · -- Old destinations are still no places of the root file.
      exact separate.vacant relocation member
    · exact free.vacant

/-- Filling in content keeps sources separate, since it moves no destination. -/
theorem Separate.fill {context : BundleContext} {s : BundleState} (separate : Separate context s)
    (source : Source) (content : Json) : Separate context (s.fill source content) := by
  refine ⟨?_, ?_, ?_⟩
  · -- The sources are the same.
    rw [sources_fill]
    exact separate.once
  · -- So are the destinations, relocation by relocation.
    intro one first other second different
    obtain ⟨one', first, source₁, destination₁⟩ := mem_fill first
    obtain ⟨other', second, source₂, destination₂⟩ := mem_fill second
    rw [← destination₁, ← destination₂]
    exact separate.apart one' first other' second (by rw [source₁, source₂]; exact different)
  · intro relocation member
    obtain ⟨former, present, _, same⟩ := mem_fill member
    rw [← same]
    exact separate.vacant former present

/-- No step brings two sources together. -/
theorem BundleStep.separate {context : BundleContext} {s t : BundleState}
    (step : BundleStep context s t) (separate : Separate context s) : Separate context t := by
  cases step with
  -- Only reserving adds a source.
  | read _ => exact ⟨separate.once, separate.apart, separate.vacant⟩
  | record _ _ => exact ⟨separate.once, separate.apart, separate.vacant⟩
  | reserve _ new free => exact separate.reserve new free
  | fill source content => exact separate.fill source content

/-- No run brings two sources together. -/
theorem BundleSteps.separate {context : BundleContext} {s t : BundleState}
    (steps : BundleSteps context s t) (separate : Separate context s) : Separate context t := by
  -- By induction on the run.
  induction steps with
  | refl => exact separate
  | tail _ step ih => exact step.separate ih

/-- No step changes the document of a place. -/
theorem BundleStep.documents {context : BundleContext} {s t : BundleState}
    (step : BundleStep context s t) :
    t.session.documentAt? context.tree = s.session.documentAt? context.tree := by
  cases step with
  -- Only reading touches the session, and what it adds was there to be read.
  | read loaded => exact Session.documentAt?_add loaded
  | record _ _ => rfl
  | reserve _ _ _ => rfl
  | fill _ _ => rfl

/-- No run changes the document of a place. -/
theorem BundleSteps.documents {context : BundleContext} {s t : BundleState}
    (steps : BundleSteps context s t) :
    t.session.documentAt? context.tree = s.session.documentAt? context.tree := by
  -- By induction on the run.
  induction steps with
  | refl => rfl
  | tail _ step ih => exact step.documents.trans ih

/-- No run changes the files or what a session sees of them. -/
theorem BundleSteps.workspace {context : BundleContext} {s t : BundleState}
    (steps : BundleSteps context s t) :
    t.session.workspace context.tree = s.session.workspace context.tree := by
  rw [Session.workspace, Session.workspace, steps.documents]

/-- A source that has a destination keeps it through every step. -/
theorem BundleStep.destination? {context : BundleContext} {s t : BundleState} {source : Source}
    {destination : Pointer} (step : BundleStep context s t)
    (assigned : s.destination? source = some destination) :
    t.destination? source = some destination := by
  cases step with
  | read _ => exact assigned
  | record _ _ => exact assigned
  | reserve _ _ _ =>
    -- The first relocation of the source is still the first one.
    obtain ⟨relocation, known, same⟩ := Option.map_eq_some_iff.mp assigned
    unfold BundleState.known? at known
    simp [BundleState.destination?, BundleState.known?, BundleState.reserve, List.find?_append,
      known, same]
  -- Filling in keeps sources and destinations, so the same relocation is found.
  | fill other content =>
    obtain ⟨relocation, known, same⟩ := Option.map_eq_some_iff.mp assigned
    have kept : (fun former : Relocation => decide ((if former.source = other then
        { former with content := some content } else former).source = source)) =
        fun former => decide (former.source = source) := by
      funext former
      by_cases touched : former.source = other <;> simp [touched]
    unfold BundleState.known? at known
    simp only [BundleState.destination?, BundleState.known?, BundleState.fill, List.find?_map,
      Function.comp_def, kept, known, Option.map_some]
    by_cases touched : relocation.source = other <;> simp [touched, same]

/-- A source that has a destination keeps it through every run. -/
theorem BundleSteps.destination? {context : BundleContext} {s t : BundleState} {source : Source}
    {destination : Pointer} (steps : BundleSteps context s t)
    (assigned : s.destination? source = some destination) :
    t.destination? source = some destination := by
  induction steps with
  | refl => exact assigned
  | tail _ step ih => exact step.destination? ih

/-! ### Moved content -/

/-- A relocation holds the walked content of the node that its source names, and the walk of that
content ended before the given state. -/
structure Settled (context : BundleContext) (s : BundleState) (relocation : Relocation)
    (node : Node) (content : Json) : Prop where
  held : relocation.content = some content
  foreign : relocation.source.file ≠ context.root.path
  named : (s.session.workspace context.tree).node? relocation.source = some node
  walked : ∃ depth before after, BundleSteps context after s ∧
    Walked context depth ⟨relocation.source, node, relocation.destination, []⟩ before content after

/-- Content that was walked stays so. -/
theorem Settled.steps {context : BundleContext} {s t : BundleState} {relocation : Relocation}
    {node : Node} {content : Json} (settled : Settled context s relocation node content)
    (steps : BundleSteps context s t) : Settled context t relocation node content := by
  -- No step changes which node a source names.
  obtain ⟨held, foreign, named, ⟨depth, before, after, earlier, walked⟩⟩ := settled
  refine ⟨held, foreign, ?_, ⟨depth, before, after, earlier.trans steps, walked⟩⟩
  rw [steps.workspace]
  exact named

/-- From one state to another, settled relocations were added and no others changed. -/
def Settles (context : BundleContext) (s t : BundleState) : Prop :=
  ∃ added, t.relocations = s.relocations ++ added ∧
    ∀ relocation ∈ added, ∃ node content, Settled context t relocation node content

/-- Adding nothing adds settled relocations only. -/
theorem Settles.of_eq {context : BundleContext} {s t : BundleState}
    (same : t.relocations = s.relocations) : Settles context s t :=
  ⟨[], by simpa using same, by simp⟩

/-- It does not matter what else a state holds in which nothing was added yet. -/
theorem Settles.of_eq_left {context : BundleContext} {s s₁ t : BundleState}
    (same : s₁.relocations = s.relocations) (settles : Settles context s₁ t) :
    Settles context s t := by
  obtain ⟨added, relocations, settled⟩ := settles
  exact ⟨added, by rw [relocations, same], settled⟩

/-- Settled relocations are added in turn. -/
theorem Settles.trans {context : BundleContext} {s t u : BundleState}
    (first : Settles context s t) (second : Settles context t u)
    (steps : BundleSteps context t u) : Settles context s u := by
  obtain ⟨added, relocations, settled⟩ := first
  obtain ⟨more, grown, others⟩ := second
  refine ⟨added ++ more, by rw [grown, relocations, List.append_assoc], ?_⟩
  intro relocation member
  rcases List.mem_append.mp member with member | member
  · -- What was settled first stays settled.
    obtain ⟨node, content, held⟩ := settled relocation member
    exact ⟨node, content, held.steps steps⟩
  · exact others relocation member

/-- Loading a document adds no relocation. -/
theorem loadTarget_relocations {context : BundleContext} {reference : Reference} {file : FilePath}
    {s s' : BundleState} {answer : Except AuditFault Document}
    (ran : runFrom (loadTarget context reference file) s = (answer, s')) :
    s'.relocations = s.relocations := by
  rcases loadTarget_state ran with rfl | ⟨_, _, _, rfl⟩ <;> rfl

/-- Content that was walked for a new source is filled into its relocation and no other. -/
theorem settles_fill {context : BundleContext} {s t : BundleState} {source : Source}
    {destination : Pointer} {node : Node} {content : Json} {depth : Nat}
    (foreign : source.file ≠ context.root.path)
    (named : (s.session.workspace context.tree).node? source = some node)
    (walked : Walked context depth ⟨source, node, destination, []⟩ (s.reserve source destination)
      content t)
    (once : t.sources.Nodup) (inner : Settles context (s.reserve source destination) t) :
    Settles context s (t.fill source content) := by
  obtain ⟨added, relocations, settled⟩ := inner
  change t.relocations = (s.relocations ++ [_]) ++ added at relocations
  rw [List.append_assoc] at relocations
  -- The source occurs once, so neither what was there nor what was added is touched.
  have before : source ∉ s.relocations.map Relocation.source := by
    intro known
    rw [BundleState.sources, relocations, List.map_append] at once
    exact (List.nodup_append.mp once).2.2 _ known _ (by simp) rfl
  have behind : source ∉ added.map Relocation.source := by
    rw [BundleState.sources, relocations, List.map_append] at once
    have tail := (List.nodup_append.mp once).2.1
    simp only [List.map_cons, List.singleton_append, List.nodup_cons] at tail
    exact tail.1
  -- The content is filled in at the end, so the walk ended one step before.
  have filling : BundleSteps context t (t.fill source content) := .single (.fill _ _)
  refine ⟨⟨source, destination, some content⟩ :: added, ?_, ?_⟩
  · simp only [BundleState.fill, relocations, List.map_append, fill_of_not_mem before,
      fill_of_not_mem behind]
    simp
  · intro relocation member
    rcases List.mem_cons.mp member with rfl | member
    · refine ⟨node, content, rfl, foreign, ?_, depth, _, t, filling, walked⟩
      -- Neither reserving nor walking changes the document of a place.
      rw [filling.workspace, walked.steps.workspace]
      exact named
    · obtain ⟨inner, held, this⟩ := settled relocation member
      exact ⟨inner, held, this.steps filling⟩

mutual

/-- The walk of a node adds settled relocations. -/
theorem Walked.settles {context : BundleContext} {depth : Nat} {visit : Visit}
    {s s' : BundleState} {value : Json} :
    Walked context depth visit s value s' → Separate context s → Settles context s s'
  -- Only references add relocations.
  | .scalar _, _ => .of_eq rfl
  | .sequence _ children, separate => children.settles separate
  | .mapping _ _ children, separate => children.settles separate
  | .reference _ answered siblings, separate =>
    -- What the reference added stays settled while its siblings are walked.
    (answered.settles separate).trans (siblings.settles (answered.steps.separate separate))
      siblings.steps

/-- The answer to a reference adds settled relocations. -/
theorem Answered.settles {context : BundleContext} {depth : Nat} {visit : Visit} {raw : String}
    {s s' : BundleState} {answer : Answer} :
    Answered context depth visit raw s answer s' → Separate context s → Settles context s s'
  | .kept reads _ _, _ => .of_eq (loadTarget_relocations reads.loaded)
  | .rooted reads _ _, _ => .of_eq (loadTarget_relocations reads.loaded)
  | .reused leaves _, _ => .of_eq (loadTarget_relocations leaves.loaded)
  | .moved leaves new _ free walked, separate => by
    -- The sources are separate when the content is walked, since its destination is free.
    have loading := loadTarget_steps leaves.loaded
    have reserved := (loading.separate separate).reserve new free
    exact (settles_fill leaves.foreign leaves.named walked
      (walked.steps.separate reserved).once (walked.settles reserved)).of_eq_left
        (loadTarget_relocations leaves.loaded)
  | .replaced leaves _ _ _ walked, separate =>
    -- A record changes no relocation.
    (walked.settles ((BundleStep.record _ _).separate
      ((loadTarget_steps leaves.loaded).separate separate))).of_eq_left
        (loadTarget_relocations leaves.loaded)

/-- The walk of children adds settled relocations. -/
theorem WalkedChildren.settles {context : BundleContext} {depth : Nat} {visit : Visit}
    {beside : Bool} {children : List (String × Node)} {s s' : BundleState}
    {members : List (String × Json)} :
    WalkedChildren context depth visit beside children s members s' → Separate context s →
      Settles context s s'
  -- The later members begin where the first one ended, and steps keep sources apart.
  | .nil, _ => .of_eq rfl
  | .reference others, separate => others.settles separate
  | .cons _ walked others, separate =>
    (walked.settles separate).trans (others.settles (walked.steps.separate separate)) others.steps

end

end SpecTrace
