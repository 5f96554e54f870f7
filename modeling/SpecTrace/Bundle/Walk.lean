import SpecTrace.Bundle.Insertion
import SpecTrace.Bundle.Provenance
import SpecTrace.Reference.Reference
import SpecTrace.Workspace.Session
import SpecTrace.Yaml.Properties

/-! The walk through a document that decides about every reference: it stays, it is rewritten to
content that moves into a container, or the content it points at takes its place. -/

namespace SpecTrace

/-- A node that is referenced from another file. -/
abbrev Source := Origin

/-- Content that moves into a container of the bundle. -/
structure Relocation where
  source : Source
  destination : Pointer
  /-- The content, as soon as it was walked. -/
  content : Option Json

/-- What stays the same while a bundle is built. -/
structure BundleContext where
  tree : FileTree
  root : Document
  /-- The version that the root declares. -/
  version : Option ApiVersion

/-- What a walk adds to. -/
structure BundleState where
  session : Session
  /-- In the order in which their destinations were reserved. -/
  relocations : List Relocation
  provenance : Provenance

/-- The relocation of a source, if its destination is reserved. -/
def BundleState.known? (state : BundleState) (source : Source) : Option Relocation :=
  state.relocations.find? fun relocation => relocation.source = source

/-- A step in building a bundle. -/
abbrev Bundling := ExceptT AuditFault (StateM BundleState)

/-- Where a value stands. -/
structure Site where
  /-- The file the value was written in. -/
  file : FilePath
  /-- Where the value goes in the bundle. -/
  pointer : Pointer
  /-- What is being inlined around the value. -/
  inlining : List Source

/-- The site of a child. -/
def Site.child (site : Site) (segment : String) : Site :=
  { site with pointer := site.pointer ++ [segment] }

/-- Why a reference leads nowhere. -/
inductive ReferenceFault where
  | notLocal
  | missing (pointer : Pointer) (file : FilePath)
  | invalidPath
  | unreadable (path : List PathName) (cause : IoFault)
deriving DecidableEq, Repr

/-- The wording of a fault. -/
def ReferenceFault.message : ReferenceFault → String
  | .notLocal => "only local files can be referenced"
  | .missing pointer file => "'" ++ pointer.fragment ++ "' not found in " ++ file.text
  | .invalidPath => "invalid file path"
  | .unreadable path cause => "cannot read " ++ shownPath path ++ ": " ++ cause.message

/-- A fault of a reference in a file. -/
def ReferenceFault.inFile (fault : ReferenceFault) (file : FilePath) (reference : String) :
    AuditFault :=
  .unresolved file.text reference fault.message

/-- The key that makes an object a reference. -/
def referenceKey : String := "$ref"

/-- The reference that an object with the given members is. -/
def referenceText? (members : List (String × Json)) : Option String :=
  (lookupMember? members referenceKey).bind Json.string?

/-- The members with another reference. -/
def setReference (members : List (String × Json)) (pointer : Pointer) : List (String × Json) :=
  insertMember members referenceKey (.string pointer.fragment)

/-- The content with the siblings of a reference put over its members. -/
def overlay (content : Json) (siblings : List (String × Json)) : Json :=
  match content with
  | .object members =>
    .object ((siblings.filter fun member => member.1 ≠ referenceKey).foldl
      (fun merged member => insertMember merged member.1 member.2) members)
  | _ => content

namespace Bundling

/-- Runs a step of an audit. -/
def audit {α : Type} (step : Auditing α) : Bundling α := do
  let state ← get
  let (result, session) := step.run state.session
  set { state with session }
  match result with
  | .ok value => pure value
  | .error fault => throw fault

/-- Records where the content at a pointer comes from. -/
def record (pointer : Pointer) (source : Source) : Bundling Unit :=
  modify fun state => { state with provenance := state.provenance.insert pointer source }

end Bundling

/-- The document that a reference in a file points into. -/
def loadTarget (context : BundleContext) (reference : Reference) (file : FilePath) :
    Bundling Document :=
  if reference.document = "" then Bundling.audit (Session.document context.tree file.names)
  else
    match Reference.resolve? file.text reference.document with
    | none => throw (ReferenceFault.invalidPath.inFile file reference.raw)
    | some path =>
      tryCatch (Bundling.audit (Session.document context.tree path)) fun fault =>
        match fault with
        | .io cause => throw ((ReferenceFault.unreadable path cause).inFile file reference.raw)
        | other => throw other

/-- The container that content goes into, and its key there. Parts of a `components` section keep
their kind; other content goes where the key above the reference, or the one above that, says.
Content without a container is inlined. -/
def destination? (context : BundleContext) (version : ApiVersion) (reference : Reference)
    (target : FilePath) (site : Pointer) : Option Pointer :=
  match reference.pointer with
  | "components" :: kind :: name :: rest =>
    let relative := relativePath context.root.path.directory.text target.text
    some ("components" :: kind :: (mangle relative ++ "-" ++ name) :: rest)
  | _ =>
    let container (n : Nat) : Option Pointer := (site.fromEnd? n).bind version.container?
    (container 0 <|> container 1).map fun path => path ++ [mangle reference.raw]

/-- One of two pointers begins the other. -/
def related (p q : Pointer) : Bool :=
  p.isPrefixOf q || q.isPrefixOf p

/-- Reserves a destination. It must be free in the root file and unrelated to the destinations of
other sources. -/
def reserve (context : BundleContext) (source : Source) (destination : Pointer) :
    Bundling Unit := do
  let state ← get
  let clashes := state.relocations.any fun relocation =>
    relocation.source ≠ source && related relocation.destination destination
  if (context.root.root.find? destination).isSome || clashes then
    throw (.collision destination.fragment)
  else
    set { state with
      relocations := state.relocations ++ [(⟨source, destination, none⟩ : Relocation)]
      provenance := state.provenance.insert destination source }

/-- Fills in the content of a relocation. -/
def fill (source : Source) (content : Json) : Bundling Unit :=
  modify fun state =>
    { state with
      relocations := state.relocations.map fun relocation =>
        if relocation.source = source then { relocation with content := some content }
        else relocation }

/-- How the walk goes on in content that a reference points at. -/
abbrev Follow := Json → Site → Bundling Json

/-- Moves a node to a destination. -/
def relocate (context : BundleContext) (follow : Follow) (source : Source) (node : Node)
    (destination : Pointer) : Bundling Unit := do
  reserve context source destination
  -- Inlining is only watched for within one relocated subtree.
  let content ← follow node.toJson ⟨source.file, destination, []⟩
  fill source content

/-- The content that takes the place of a reference. -/
def inlined (follow : Follow) (source : Source) (node : Node) (raw : String) (site : Site) :
    Bundling Json := do
  if source ∈ site.inlining then throw (.circular site.file.text raw)
  else
    Bundling.record site.pointer source
    follow node.toJson ⟨source.file, site.pointer, source :: site.inlining⟩

/-- What a reference is answered with, before the members beside it are walked. -/
inductive Answer where
  /-- It stays as it was written. -/
  | kept
  /-- It is rewritten to a pointer into the bundle. -/
  | pointing (pointer : Pointer)
  /-- Content takes its place. -/
  | replaced (content : Json)

/-- The value that the answer makes of the walked members of a reference. -/
def Answer.complete : Answer → List (String × Json) → Json
  | .kept, members => .object members
  | .pointing pointer, members => .object (setReference members pointer)
  | .replaced content, members => overlay content members

/-- Decides about a reference. -/
def answerReference (context : BundleContext) (follow : Follow) (raw : String) (site : Site) :
    Bundling Answer := do
  let reference := Reference.parse raw
  if reference.kind = .remote then throw (ReferenceFault.notLocal.inFile site.file raw)
  else
    let target ← loadTarget context reference site.file
    match target.root.find? reference.pointer with
    | none => throw ((ReferenceFault.missing reference.pointer target.path).inFile site.file raw)
    | some node =>
      if target.path = context.root.path then
        -- The root file is in the bundle already.
        if site.file = context.root.path then pure .kept else pure (.pointing reference.pointer)
      else
        match context.version with
        | none => throw (.unsupportedVersion context.root.path.text)
        | some version =>
          let source : Source := ⟨target.path, reference.pointer⟩
          match (← get).known? source with
          | some relocation => pure (.pointing relocation.destination)
          | none =>
            match destination? context version reference target.path site.pointer with
            | some destination =>
              relocate context follow source node destination
              pure (.pointing destination)
            | none =>
              let content ← inlined follow source node raw site
              pure (.replaced content)

/-- What becomes of a reference; `siblings` walks the members beside it. -/
def visitReference (context : BundleContext) (follow : Follow) (raw : String) (site : Site)
    (siblings : Bundling (List (String × Json))) : Bundling Json := do
  let answer ← answerReference context follow raw site
  let members ← siblings
  pure (answer.complete members)

mutual

/-- Walks a value. -/
def walk (context : BundleContext) (follow : Follow) : Json → Site → Bundling Json
  | .object members, site =>
    match referenceText? members with
    | some raw =>
      visitReference context follow raw site (walkMembers context follow true members site)
    | none => do
      let walked ← walkMembers context follow false members site
      pure (.object walked)
  | .array items, site => do
    let walked ← walkItems context follow 0 items site
    pure (.array walked)
  | value, _ => pure value

/-- Walks the members of an object, or all but its reference. -/
def walkMembers (context : BundleContext) (follow : Follow) (keepReference : Bool) :
    List (String × Json) → Site → Bundling (List (String × Json))
  | [], _ => pure []
  | (key, value) :: rest, site => do
    let walked ←
      if keepReference && key = referenceKey then pure value
      else walk context follow value (site.child key)
    let others ← walkMembers context follow keepReference rest site
    pure ((key, walked) :: others)

/-- Walks the items of an array from an index on. -/
def walkItems (context : BundleContext) (follow : Follow) (index : Nat) :
    List Json → Site → Bundling (List Json)
  | [], _ => pure []
  | item :: rest, site => do
    let walked ← walk context follow item (site.child (indexSegment index))
    let others ← walkItems context follow (index + 1) rest site
    pure (walked :: others)

end

/-- Walks content that may lead through a number of references inside one another. -/
def walkWithin (context : BundleContext) : Nat → Follow
  | 0, _, _ => throw .exhausted
  | depth + 1, value, site => walk context (walkWithin context depth) value site

end SpecTrace
