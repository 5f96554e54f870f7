import SpecTrace.Proofs.Bundle.Loading
import SpecTrace.Proofs.Document.Children

/-! The walk as a relation: which value a node becomes, and how the state changes on the way. The
relation holds exactly of the walks that answer, so a fact about all of them is one induction. -/

namespace SpecTrace

/-- A node that a walk comes to. -/
structure Visit where
  /-- Where the node was written. -/
  origin : Origin
  node : Node
  /-- Where its copy goes in the bundle. -/
  site : Pointer
  /-- What is being inlined around the node. -/
  inlining : List Source

/-- The visit of a child. -/
def Visit.child (visit : Visit) (segment : String) (node : Node) : Visit :=
  ⟨visit.origin.below [segment], node, visit.site ++ [segment], visit.inlining⟩

/-- Where the value of the node stands for the walk. -/
def Visit.place (visit : Visit) : Site :=
  ⟨visit.origin.file, visit.site, visit.inlining⟩

namespace BundleState

/-- The state with one more record. -/
def record (s : BundleState) (pointer : Pointer) (source : Source) : BundleState :=
  { s with provenance := s.provenance.insert pointer source }

/-- The state with one more reserved destination. -/
def reserve (s : BundleState) (source : Source) (destination : Pointer) : BundleState :=
  { s with
    relocations := s.relocations ++ [⟨source, destination, none⟩]
    provenance := s.provenance.insert destination source }

/-- The state with the content of a source. -/
def fill (s : BundleState) (source : Source) (content : Json) : BundleState :=
  { s with
    relocations := s.relocations.map fun relocation =>
      if relocation.source = source then { relocation with content := some content }
      else relocation }

end BundleState

/-- A destination is no place of the root file and has nothing to do with that of another
source. -/
structure Free (context : BundleContext) (s : BundleState) (source : Source)
    (destination : Pointer) : Prop where
  vacant : context.root.root.find? destination = none
  apart : ∀ relocation ∈ s.relocations, relocation.source ≠ source →
    related relocation.destination destination = false

/-- A reference in a file leads to a node of a document. -/
structure Reads (context : BundleContext) (file : FilePath) (raw : String) (s : BundleState)
    (target : Document) (node : Node) (s₁ : BundleState) : Prop where
  near : (Reference.parse raw).kind ≠ .remote
  loaded : runFrom (loadTarget context (Reference.parse raw) file) s = (.ok target, s₁)
  found : target.root.find? (Reference.parse raw).pointer = some node

/-- The source that a reference into a document names. -/
def sourceIn (target : Document) (raw : String) : Source :=
  ⟨target.path, (Reference.parse raw).pointer⟩

/-- A reference leads to a node of another file than the root file, whose version is known. -/
structure Leaves (context : BundleContext) (file : FilePath) (raw : String) (s : BundleState)
    (version : ApiVersion) (target : Document) (node : Node) (s₁ : BundleState) : Prop
    extends Reads context file raw s target node s₁ where
  foreign : target.path ≠ context.root.path
  version : context.version = some version

mutual

/-- The node of a visit becomes a value. The number is that of references which may be followed
inside one another. -/
inductive Walked (context : BundleContext) :
    Nat → Visit → BundleState → Json → BundleState → Prop
  | scalar {depth visit s value span} (shape : visit.node = .scalar value span) :
    Walked context (depth + 1) visit s value.toJson s
  | sequence {depth visit s items span members s'} (shape : visit.node = .sequence items span)
    (children : WalkedChildren context (depth + 1) visit false visit.node.children s members s') :
    Walked context (depth + 1) visit s (.array (members.map Prod.snd)) s'
  | mapping {depth visit s entries span members s'} (shape : visit.node = .mapping entries span)
    (plain : visit.node.reference? = none)
    (children : WalkedChildren context (depth + 1) visit false visit.node.children s members s') :
    Walked context (depth + 1) visit s (.object members) s'
  | reference {depth visit s raw answer s₁ members s'} (refers : visit.node.reference? = some raw)
    (answered : Answered context depth visit raw s answer s₁)
    (siblings : WalkedChildren context (depth + 1) visit true visit.node.children s₁ members s') :
    Walked context (depth + 1) visit s (answer.complete members) s'

/-- A reference at the node of a visit is answered. -/
inductive Answered (context : BundleContext) :
    Nat → Visit → String → BundleState → Answer → BundleState → Prop
  | kept {depth visit raw s target node s₁}
    (reads : Reads context visit.origin.file raw s target node s₁)
    (home : target.path = context.root.path) (inside : visit.origin.file = context.root.path) :
    Answered context depth visit raw s .kept s₁
  | rooted {depth visit raw s target node s₁}
    (reads : Reads context visit.origin.file raw s target node s₁)
    (home : target.path = context.root.path) (outside : visit.origin.file ≠ context.root.path) :
    Answered context depth visit raw s (.pointing (Reference.parse raw).pointer) s₁
  | reused {depth visit raw s version target node s₁ relocation}
    (leaves : Leaves context visit.origin.file raw s version target node s₁)
    (known : s₁.known? (sourceIn target raw) = some relocation) :
    Answered context depth visit raw s (.pointing relocation.destination) s₁
  | moved {depth visit raw s version target node s₁ destination content s₂}
    (leaves : Leaves context visit.origin.file raw s version target node s₁)
    (new : s₁.known? (sourceIn target raw) = none)
    (chosen : destination? context version (Reference.parse raw) target.path visit.site =
      some destination)
    (free : Free context s₁ (sourceIn target raw) destination)
    (walked : Walked context depth ⟨sourceIn target raw, node, destination, []⟩
      (s₁.reserve (sourceIn target raw) destination) content s₂) :
    Answered context depth visit raw s (.pointing destination)
      (s₂.fill (sourceIn target raw) content)
  | replaced {depth visit raw s version target node s₁ content s₂}
    (leaves : Leaves context visit.origin.file raw s version target node s₁)
    (new : s₁.known? (sourceIn target raw) = none)
    (homeless : destination? context version (Reference.parse raw) target.path visit.site = none)
    (fresh : sourceIn target raw ∉ visit.inlining)
    (walked : Walked context depth
      ⟨sourceIn target raw, node, visit.site, sourceIn target raw :: visit.inlining⟩
      (s₁.record visit.site (sourceIn target raw)) content s₂) :
    Answered context depth visit raw s (.replaced content) s₂

/-- Children of the node of a visit become members. Beside a reference, the member that makes it
one stays as it is. -/
inductive WalkedChildren (context : BundleContext) : Nat → Visit → (beside : Bool) →
    List (String × Node) → BundleState → List (String × Json) → BundleState → Prop
  | nil {depth visit beside s} : WalkedChildren context depth visit beside [] s [] s
  | reference {depth visit node rest s members s'}
    (others : WalkedChildren context depth visit true rest s members s') :
    WalkedChildren context depth visit true ((referenceKey, node) :: rest) s
      ((referenceKey, node.toJson) :: members) s'
  | cons {depth visit beside segment node rest s value s₁ members s'}
    (walks : beside = true → segment ≠ referenceKey)
    (walked : Walked context depth (visit.child segment node) s value s₁)
    (others : WalkedChildren context depth visit beside rest s₁ members s') :
    WalkedChildren context depth visit beside ((segment, node) :: rest) s
      ((segment, value) :: members) s'

end

end SpecTrace
