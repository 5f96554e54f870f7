import SpecTrace.Proofs.Bundle.Runs

/-! The single changes that a walk makes to the state, and what none of them breaks. -/

namespace SpecTrace

open Relation

namespace BundleState

/-- The sources whose destinations are reserved. -/
def sources (s : BundleState) : List Source :=
  s.relocations.map Relocation.source

/-- The destination that a source has. -/
def destination? (s : BundleState) (source : Source) : Option Pointer :=
  (s.known? source).map Relocation.destination

/-- A source is known exactly if it is one of those with a reserved destination. -/
theorem known?_eq_none_iff {s : BundleState} {source : Source} :
    s.known? source = none ↔ source ∉ s.sources := by
  -- The search passes over every relocation of another source.
  simp [known?, sources, List.find?_eq_none]

/-- A known relocation is one of the source that it was looked up by. -/
theorem known?_source {s : BundleState} {source : Source} {relocation : Relocation}
    (known : s.known? source = some relocation) : relocation.source = source := by
  simpa using List.find?_some known

/-- A known relocation is one of those in the state. -/
theorem known?_mem {s : BundleState} {source : Source} {relocation : Relocation}
    (known : s.known? source = some relocation) : relocation ∈ s.relocations :=
  List.mem_of_find?_eq_some known

end BundleState

/-- One change of the state. -/
inductive BundleStep (context : BundleContext) : BundleState → BundleState → Prop
  | read {s place document} (loaded : Session.load context.tree place = .ok document) :
    BundleStep context s { s with session := s.session.add document }
  | record {s} (pointer : Pointer) (source : Source) :
    BundleStep context s (s.record pointer source)
  | reserve {s source node destination}
    (named : (s.session.workspace context.tree).node? source = some node)
    (new : s.known? source = none) (free : Free context s source destination) :
    BundleStep context s (s.reserve source destination)
  | fill {s} (source : Source) (content : Json) : BundleStep context s (s.fill source content)

/-- Any number of changes of the state. -/
abbrev BundleSteps (context : BundleContext) : BundleState → BundleState → Prop :=
  ReflTransGen (BundleStep context)

/-- Loading a document reads one file or none. -/
theorem loadTarget_steps {context : BundleContext} {reference : Reference} {file : FilePath}
    {s s' : BundleState} {answer : Except AuditFault Document}
    (ran : runFrom (loadTarget context reference file) s = (answer, s')) :
    BundleSteps context s s' := by
  -- Reading a file is one step, and a document that is known is none.
  rcases loadTarget_state ran with rfl | ⟨place, document, loaded, rfl⟩
  · exact .refl
  · exact .single (.read loaded)

/-- A reference that was read targets the node that was found, in the files as they are seen. -/
theorem Reads.target? {context : BundleContext} {file : FilePath} {raw : String}
    {s s₁ : BundleState} {target : Document} {node : Node}
    (reads : Reads context file raw s target node s₁) :
    (s.session.workspace context.tree).target? file raw = some (sourceIn target raw, node) := by
  -- The place of the document is the one that the reference names.
  obtain ⟨names, place, named, resolved, document⟩ := loadTarget_answer reads.loaded
  have path := Session.documentAt?_path document
  -- So every part of the target is found as the walk found it.
  simp [Workspace.target?, Workspace.node?, Session.workspace, named, resolved, document,
    reads.found, reads.near, Except.toOption, sourceIn, path]

/-- The source of a reference that was read names the node that was found. -/
theorem Reads.named {context : BundleContext} {file : FilePath} {raw : String}
    {s s₁ : BundleState} {target : Document} {node : Node}
    (reads : Reads context file raw s target node s₁) :
    (s₁.session.workspace context.tree).node? (sourceIn target raw) = some node := by
  have leads := Workspace.node?_of_target? reads.target?
  -- Loading changes the document of no place.
  rcases loadTarget_state reads.loaded with rfl | ⟨place, document, loaded, rfl⟩
  · exact leads
  · rw [Session.workspace, Session.documentAt?_add loaded]
    exact leads

mutual

/-- The walk of a node makes steps only. -/
theorem Walked.steps {context : BundleContext} {depth : Nat} {visit : Visit} {s s' : BundleState}
    {value : Json} : Walked context depth visit s value s' → BundleSteps context s s'
  -- A node makes the steps of its children, and a reference first those of its answer.
  | .scalar _ => .refl
  | .sequence _ children => children.steps
  | .mapping _ _ children => children.steps
  | .reference _ answered siblings => answered.steps.trans siblings.steps

/-- The answer to a reference makes steps only. -/
theorem Answered.steps {context : BundleContext} {depth : Nat} {visit : Visit} {raw : String}
    {s s' : BundleState} {answer : Answer} :
    Answered context depth visit raw s answer s' → BundleSteps context s s'
  | .kept reads _ _ => loadTarget_steps reads.loaded
  | .rooted reads _ _ => loadTarget_steps reads.loaded
  | .reused leaves _ => loadTarget_steps leaves.loaded
  | .moved leaves new _ free walked =>
    -- The destination is reserved before the content is walked, and filled after that.
    ((loadTarget_steps leaves.loaded).tail (.reserve leaves.named new free)).trans
      (walked.steps.tail (.fill _ _))
  | .replaced leaves _ _ _ walked =>
    ((loadTarget_steps leaves.loaded).tail (.record _ _)).trans walked.steps

/-- The walk of children makes steps only. -/
theorem WalkedChildren.steps {context : BundleContext} {depth : Nat} {visit : Visit}
    {beside : Bool} {children : List (String × Node)} {s s' : BundleState}
    {members : List (String × Json)} :
    WalkedChildren context depth visit beside children s members s' → BundleSteps context s s'
  | .nil => .refl
  | .reference others => others.steps
  | .cons _ walked others => walked.steps.trans others.steps

end

/-- Steps lead from a call to each call that it makes. -/
theorem Calls.steps {context : BundleContext} {call next : Call} (calls : Calls context call next) :
    BundleSteps context call.state next.state := by
  cases calls with
  -- The steps that lead to a call are those of what was walked before it.
  | child _ _ earlier => exact earlier.steps
  | sibling _ answered _ _ earlier => exact answered.steps.trans earlier.steps
  | moved _ leaves new _ free =>
    exact (loadTarget_steps leaves.loaded).tail (.reserve leaves.named new free)
  | replaced _ leaves _ _ _ => exact (loadTarget_steps leaves.loaded).tail (.record _ _)

/-- Steps lead from a call to the state in which it raises a fault. -/
theorem Raises.steps {context : BundleContext} {call : Call} {fault : AuditFault}
    {s : BundleState} (raises : Raises context call fault s) : BundleSteps context call.state s := by
  -- At most a document was loaded before the fault.
  cases raises with
  | exhausted => exact .refl
  | remote _ _ => exact .refl
  | unread _ _ failed => exact loadTarget_steps failed
  | missing _ _ loaded _ => exact loadTarget_steps loaded
  | unsupported _ reads _ _ => exact loadTarget_steps reads.loaded
  | collision _ leaves _ _ _ => exact loadTarget_steps leaves.loaded
  | circular _ leaves _ _ _ => exact loadTarget_steps leaves.loaded

/-- Steps lead from a call to every call that is reached from it. -/
theorem reached_steps {context : BundleContext} {call last : Call}
    (reached : ReflTransGen (Calls context) call last) :
    BundleSteps context call.state last.state := by
  -- By induction on the calls in between.
  induction reached with
  | refl => exact .refl
  | tail _ calls ih => exact ih.trans calls.steps

/-- Whether it answers or fails, a call makes steps only. -/
theorem run_steps (context : BundleContext) (call : Call) :
    BundleSteps context call.state (call.run context).2 := by
  have accounts := run_accounts context call.depth call.visit call.state
  -- The relation accounts for the answer, and both of its sides make steps only.
  change Accounts context call (call.run context) at accounts
  revert accounts
  cases call.run context with
  | mk answer s =>
    intro accounts
    cases answer with
    | ok value => exact Walked.steps accounts
    | error fault =>
      -- The fault was raised by a call that was reached.
      obtain ⟨last, reached, raises⟩ := accounts
      exact (reached_steps reached).trans raises.steps

end SpecTrace
