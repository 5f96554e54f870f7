import Mathlib
import SpecTrace.Bundle.Bundle
import SpecTrace.Proofs.Workspace
import SpecTrace.Proofs.Yaml.Reading

/-! All nodes that the files of a tree and the documents of a session have: there are no more of
them than the bounds say. -/

namespace SpecTrace

/-- No more nodes than this are in a document with a text. -/
def nodesOf (text : String) : Nat :=
  text.utf8ByteSize + 1 + Yaml.maxAliasNodes

/-- A text has no more characters than bytes. -/
theorem length_le_utf8ByteSize (text : String) : text.toList.length ≤ text.utf8ByteSize := by
  rw [← String.utf8Len_toList]
  -- By induction on the characters.
  induction text.toList with
  | nil => exact Nat.le_refl _
  | cons c rest ih =>
    -- Every character takes at least one byte.
    have size := c.utf8Size_pos
    simp only [List.length_cons, String.utf8Len_cons]
    omega

/-- A document as its text gives it has no more nodes than the bound, and repeats no key. -/
theorem Document.Faithful.shape {document : Document} (faithful : document.Faithful) :
    document.root.count ≤ nodesOf document.text ∧ document.root.Distinct := by
  -- Reading the text again gives the root.
  have read : readDocument document.format document.text = .ok document.root := by
    unfold Document.Faithful Document.ofText at faithful
    split at faithful
    · rename_i root read
      rw [read, ← Except.ok.inj faithful]
    · cases faithful
  have length := length_le_utf8ByteSize document.text
  unfold nodesOf
  cases format : document.format with
  | json =>
    rw [format] at read
    obtain ⟨size, distinct⟩ := JsonText.read_pays read
    exact ⟨by omega, distinct⟩
  | yaml =>
    rw [format] at read
    obtain ⟨size, distinct⟩ := Yaml.read_pays read
    exact ⟨by omega, distinct⟩

namespace Node

mutual

/-- There are as many descendants as nodes. -/
theorem length_descendants : ∀ node : Node, node.descendants.length = node.count
  -- The recursion is that of the descendants, and each node adds itself to those below.
  | .scalar _ _ => rfl
  | .sequence items _ => by
    simp only [descendants, count, List.length_cons, length_itemDescendants 0 items]
    omega
  | .mapping entries _ => by
    simp only [descendants, count, List.length_cons, length_entryDescendants entries]
    omega

/-- There are as many descendants in items as nodes. -/
theorem length_itemDescendants :
    ∀ (index : Nat) (items : List Node), (itemDescendants index items).length = countItems items
  | _, [] => rfl
  | index, item :: rest => by
    simp only [itemDescendants, countItems, List.length_append, List.length_map,
      length_descendants item, length_itemDescendants (index + 1) rest]

/-- There are as many descendants in entries as nodes. -/
theorem length_entryDescendants :
    ∀ entries : List (Entry Node), (entryDescendants entries).length = countEntries entries
  | [] => rfl
  | ⟨_, _, value⟩ :: rest => by
    simp only [entryDescendants, countEntries, List.length_append, List.length_map,
      length_descendants value, length_entryDescendants rest]

end

/-- A node is its own first descendant. -/
theorem self_mem_descendants (node : Node) : ([], node) ∈ node.descendants := by
  cases node <;> simp [descendants]

/-- The descendants of a child are descendants, one segment further down. -/
theorem mem_descendants_of_child {node child : Node} {segment : String} {p : Pointer}
    {inner : Node} (member : (segment, child) ∈ node.children)
    (below : (p, inner) ∈ child.descendants) : (segment :: p, inner) ∈ node.descendants := by
  -- The lists of descendants are built by recursion on items and entries, so the child is looked
  -- for in them.
  cases node with
  | scalar value span => cases member
  | sequence items span =>
    refine List.mem_cons_of_mem _ ?_
    change (segment, child) ∈ indexed 0 items at member
    -- The item is found at its index, wherever the indices begin.
    generalize 0 = index at member ⊢
    induction items generalizing index with
    | nil => cases member
    | cons item rest ih =>
      simp only [itemDescendants, List.mem_append]
      rcases List.mem_cons.mp member with first | later
      · cases first
        exact Or.inl (List.mem_map.mpr ⟨(p, inner), below, rfl⟩)
      · exact Or.inr (ih _ later)
  | mapping entries span =>
    refine List.mem_cons_of_mem _ ?_
    change (segment, child) ∈ keyed entries at member
    -- The value is found behind the entries before it.
    induction entries with
    | nil => cases member
    | cons entry rest ih =>
      rcases entry with ⟨key, keySpan, value⟩
      simp only [entryDescendants, List.mem_append]
      rcases List.mem_cons.mp member with first | later
      · cases first
        exact Or.inl (List.mem_map.mpr ⟨(p, inner), below, rfl⟩)
      · exact Or.inr (ih later)

/-- Every node that a pointer leads to is a descendant. -/
theorem mem_descendants_of_find? {node inner : Node} {p : Pointer}
    (found : node.find? p = some inner) : (p, inner) ∈ node.descendants := by
  -- By induction on the pointer, one child after the other.
  induction p generalizing node with
  | nil =>
    cases found
    exact self_mem_descendants _
  | cons segment rest ih =>
    rw [find?_cons] at found
    obtain ⟨child, member, below⟩ := Option.bind_eq_some_iff.mp found
    exact mem_descendants_of_child (lookupMember?_mem member) (ih below)

end Node

namespace FileTree

mutual

/-- The texts of all files, each with its place below a place. -/
def texts (above : FilePath) : FileTree → List (FilePath × String)
  | .file content => [(above, content.getD "")]
  | .directory entries => entriesTexts above entries

/-- The texts of all files in the entries of a directory. -/
def entriesTexts (above : FilePath) : List (String × FileTree) → List (FilePath × String)
  | [] => []
  | (name, tree) :: rest => tree.texts (above ++ [name]) ++ entriesTexts above rest

end

mutual

/-- The bound of a tree is that of all its texts. -/
theorem sum_texts (above : FilePath) :
    ∀ tree : FileTree, ((tree.texts above).map fun file => nodesOf file.2).sum = tree.nodeBound
  | .file content => by simp [texts, nodeBound, nodesOf]
  | .directory entries => by
    rw [texts, nodeBound]
    exact sum_entriesTexts above entries

/-- The bound of entries is that of all their texts. -/
theorem sum_entriesTexts (above : FilePath) : ∀ entries : List (String × FileTree),
    ((entriesTexts above entries).map fun file => nodesOf file.2).sum = entriesNodeBound entries
  | [] => rfl
  | (name, tree) :: rest => by
    rw [entriesTexts, List.map_append, List.sum_append, sum_texts (above ++ [name]) tree,
      sum_entriesTexts above rest, entriesNodeBound]

end

/-- An entry that is found brings its texts. -/
theorem mem_entriesTexts {above : FilePath} {entries : List (String × FileTree)} {name : String}
    {tree : FileTree} {file : FilePath × String} (member : (name, tree) ∈ entries)
    (inside : file ∈ tree.texts (above ++ [name])) : file ∈ entriesTexts above entries := by
  -- By induction on the entries, up to the one that is found.
  induction entries with
  | nil => cases member
  | cons entry rest ih =>
    rcases entry with ⟨other, below⟩
    simp only [entriesTexts, List.mem_append]
    rcases List.mem_cons.mp member with first | later
    · cases first
      exact Or.inl inside
    · exact Or.inr (ih later)

/-- A file that has a text is one of the texts. -/
theorem mem_texts_of_get? {tree : FileTree} {above place : FilePath} {text : String}
    (found : tree.get? place = some (.file (some text))) :
    (above ++ place, text) ∈ tree.texts above := by
  -- By induction on the place, which is taken down name by name.
  induction place generalizing tree above with
  | nil =>
    cases found
    simp [texts]
  | cons name rest ih =>
    cases tree with
    | file content => cases found
    | directory entries =>
      -- The name of the place leads into the directory.
      obtain ⟨below, member, inside⟩ := Option.bind_eq_some_iff.mp found
      rw [List.append_cons, texts]
      exact mem_entriesTexts (lookupMember?_mem member) (ih inside)

/-- A text that is read is one of the texts. -/
theorem mem_texts {tree : FileTree} {place : FilePath} {text : String}
    (read : tree.readText place = .ok text) : (place, text) ∈ tree.texts [] := by
  -- Only a file has a text, and the texts of the tree are those of its files.
  unfold readText at read
  split at read
  · rename_i found
    cases read
    exact mem_texts_of_get? found
  all_goals cases read

end FileTree

namespace Session

/-- The documents that places may have: those read, and those that the files hold. -/
def allDocuments (session : Session) (tree : FileTree) : List Document :=
  session.documents ++ (tree.texts []).filterMap fun file =>
    (Document.ofText file.1 (Format.ofPath file.1.text) file.2).toOption

/-- All sources that name a node. -/
def allSources (session : Session) (tree : FileTree) : List Source :=
  (session.allDocuments tree).flatMap fun document =>
    document.root.descendants.map fun node => ⟨document.path, node.1⟩

/-- The document of a place is one of all documents. -/
theorem mem_allDocuments {session : Session} {tree : FileTree} {place : FilePath}
    {document : Document} (found : session.documentAt? tree place = some document) :
    document ∈ session.allDocuments tree := by
  unfold documentAt? at found
  refine List.mem_append.mpr ?_
  split at found
  · -- The session has read the document already.
    rename_i known
    cases found
    exact Or.inl (find?_mem known)
  · refine Or.inr (List.mem_filterMap.mpr ?_)
    -- The file at the place was read as one of the texts.
    cases read : tree.readText place with
    | error fault => simp [load, read, bind, Except.bind, Except.toOption] at found
    | ok text =>
      refine ⟨(place, text), FileTree.mem_texts read, ?_⟩
      simpa [load, read, bind, Except.bind] using found

/-- A source that names a node is one of all sources. -/
theorem mem_allSources {session : Session} {tree : FileTree} {source : Source} {node : Node}
    (named : (session.workspace tree).node? source = some node) :
    source ∈ session.allSources tree := by
  obtain ⟨document, found, leads⟩ := Option.bind_eq_some_iff.mp named
  refine List.mem_flatMap.mpr ⟨document, mem_allDocuments found, ?_⟩
  -- The source has the path of its document.
  have path := documentAt?_path found
  refine List.mem_map.mpr ⟨(source.pointer, node), Node.mem_descendants_of_find? leads, ?_⟩
  rw [path]

/-- The bound of a session is that of all its texts. -/
theorem sum_documents (session : Session) :
    (session.documents.map fun document => nodesOf document.text).sum = session.nodeBound := by
  -- The fold may begin with any bound.
  have general : ∀ (documents : List Document) (bound : Nat),
      documents.foldl (fun bound document =>
        bound + document.text.utf8ByteSize + 1 + Yaml.maxAliasNodes) bound =
        bound + (documents.map fun document => nodesOf document.text).sum := by
    intro documents
    induction documents with
    | nil => intro bound; rfl
    | cons document rest ih =>
      intro bound
      rw [List.foldl_cons, ih, List.map_cons, List.sum_cons, nodesOf]
      omega
  rw [nodeBound, general, Nat.zero_add]

/-- The documents of a list have no more nodes than the bounds of their texts. -/
theorem length_sources_le {documents : List Document}
    (faithful : ∀ document ∈ documents, document.Faithful) :
    (documents.flatMap fun document => document.root.descendants.map fun node =>
      (⟨document.path, node.1⟩ : Source)).length ≤
      (documents.map fun document => nodesOf document.text).sum := by
  -- By induction on the documents, each of which has no more nodes than its own bound.
  induction documents with
  | nil => exact Nat.le_refl _
  | cons document rest ih =>
    obtain ⟨first, others⟩ := List.forall_mem_cons.mp faithful
    rw [List.flatMap_cons, List.length_append, List.length_map, Node.length_descendants,
      List.map_cons, List.sum_cons]
    exact Nat.add_le_add first.shape.1 (ih others)

/-- The documents that the files hold have no more nodes than the bound of the tree. -/
theorem sum_held_le (texts : List (FilePath × String)) :
    ((texts.filterMap fun file =>
      (Document.ofText file.1 (Format.ofPath file.1.text) file.2).toOption).map fun document =>
        nodesOf document.text).sum ≤ (texts.map fun file => nodesOf file.2).sum := by
  -- By induction on the files, which hold a document each or none.
  induction texts with
  | nil => exact Nat.le_refl _
  | cons file rest ih =>
    rw [List.map_cons, List.sum_cons]
    cases held : Document.ofText file.1 (Format.ofPath file.1.text) file.2 with
    | error fault =>
      -- A file that cannot be read has no nodes.
      rw [List.filterMap_cons_none (by simp [held, Except.toOption])]
      omega
    | ok document =>
      have text : document.text = file.2 := by
        unfold Document.ofText at held
        split at held
        · cases held
          rfl
        · cases held
      rw [List.filterMap_cons_some (show _ = some document by simp [held, Except.toOption]),
        List.map_cons, List.sum_cons, text]
      omega

/-- In a faithful session, no more sources than the bounds allow name a node. -/
theorem length_allSources_le {session : Session} (faithful : session.Faithful) (tree : FileTree) :
    (session.allSources tree).length ≤ tree.nodeBound + session.nodeBound := by
  -- Whether read or loaded, each document is as its text gives it.
  have held : ∀ document ∈ session.allDocuments tree, document.Faithful := by
    intro document member
    rcases List.mem_append.mp member with read | loaded
    · exact faithful document read
    · obtain ⟨file, _, made⟩ := List.mem_filterMap.mp loaded
      have answer := toOption_eq_some.mp made
      -- Reading keeps the path, the format and the text it was called with.
      have again := answer
      unfold Document.ofText at again
      split at again
      · cases again
        exact answer
      · cases again
  refine Nat.le_trans (length_sources_le held) ?_
  -- The texts of the tree and those of the session have bounds of their own.
  have files := sum_held_le (tree.texts [])
  rw [FileTree.sum_texts] at files
  rw [allDocuments, List.map_append, List.sum_append, sum_documents]
  omega

/-- Sources of their own that name nodes are no more than the bounds allow. -/
theorem length_le_of_named {session : Session} (faithful : session.Faithful) {tree : FileTree}
    {sources : List Source} (once : sources.Nodup)
    (named : ∀ source ∈ sources, ∃ node, (session.workspace tree).node? source = some node) :
    sources.length ≤ tree.nodeBound + session.nodeBound := by
  -- All of them are among the sources that can be listed.
  have within : sources ⊆ session.allSources tree := by
    intro source member
    obtain ⟨node, known⟩ := named source member
    exact mem_allSources known
  exact Nat.le_trans (List.subperm_of_subset once within).length_le (length_allSources_le faithful tree)

end Session

end SpecTrace
