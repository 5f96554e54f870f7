import SpecTrace.Proofs.Members
import SpecTrace.Proofs.Workspace

/-! Places that paths lead to. Spelled as a path, such a place leads to itself, so a document is
found again under the place that it was read from. A file system holds proper trees: every directory
has each name once, and no name is a detour. -/

namespace SpecTrace

/-- A name that a path may have at its place: no detour, and no name that no file can have. -/
structure ProperName (name : String) : Prop where
  filled : name ≠ ""
  stays : name ≠ "."
  below : name ≠ ".."
  plain : '\x00' ∉ name.toList

/-- Whether a path may have a name at its place can be computed. -/
instance (name : String) : Decidable (ProperName name) :=
  decidable_of_iff (name ≠ "" ∧ name ≠ "." ∧ name ≠ ".." ∧ '\x00' ∉ name.toList)
    ⟨fun ⟨filled, stays, below, plain⟩ => ⟨filled, stays, below, plain⟩,
      fun proper => ⟨proper.filled, proper.stays, proper.below, proper.plain⟩⟩

namespace FileTree

/-- A place at which there is something, spelled by proper names. -/
structure Holds (tree : FileTree) (place : FilePath) : Prop where
  there : (tree.get? place).isSome
  proper : ∀ name ∈ place, ProperName name

variable {tree : FileTree} {place rest : FilePath} {name : String}

/-- The second part of a place is followed from where the first part leads. -/
theorem get?_append (tree : FileTree) (place rest : FilePath) :
    tree.get? (place ++ rest) = (tree.get? place).bind (get? · rest) := by
  -- Both sides take the first name alike.
  induction place generalizing tree with
  | nil => simp [get?]
  | cons name behind ih =>
    cases tree with
    | file content => rfl
    | directory entries =>
      simp only [List.cons_append, get?]
      cases lookupMember? entries name with
      | none => rfl
      | some below => exact ih below

/-- What is above something is a directory. -/
theorem isDirectory_of_get? (there : (tree.get? (place ++ name :: rest)).isSome) :
    (tree.get? place).any isDirectory = true := by
  rw [get?_append] at there
  cases found : tree.get? place with
  | none => simp [found] at there
  | some below =>
    -- A file has nothing inside.
    cases below with
    | file content => simp [found, get?] at there
    | directory entries => rfl

/-- A place that holds something is below one that does. -/
theorem Holds.above (holds : tree.Holds (place ++ rest)) : tree.Holds place := by
  refine ⟨?_, fun name member => holds.proper name (List.mem_append_left _ member)⟩
  have there := holds.there
  rw [get?_append] at there
  cases found : tree.get? place with
  | none => simp [found] at there
  | some below => rfl

/-- Going up from a place leads to one that holds something. -/
theorem Holds.dropLast (holds : tree.Holds place) : tree.Holds place.dropLast := by
  rcases List.eq_nil_or_concat place with rfl | ⟨above, last, rfl⟩
  · -- The root is above itself.
    exact holds
  · rw [List.concat_eq_append] at holds ⊢
    rw [List.dropLast_concat]
    exact holds.above

/-- A path leads from a place that holds something to one that does. -/
theorem follow_holds {path : List PathName} {found : FilePath} (holds : tree.Holds place)
    (plain : ∀ name ∈ path, name.hasNul = false) (followed : tree.follow place path = .ok found) :
    tree.Holds found := by
  -- The place that was come to so far holds something at each step.
  induction path generalizing place with
  | nil =>
    cases followed
    exact holds
  | cons first behind ih =>
    obtain ⟨here, later⟩ := List.forall_mem_cons.mp plain
    cases first with
    | bytes raw =>
      rw [follow] at followed
      split at followed <;> cases followed
    | text name =>
      rw [follow] at followed
      split at followed
      · -- A name stays at the place, leads up, or leads to an entry that is there.
        split at followed
        · exact ih holds later followed
        · rename_i moves
          split at followed
          · exact ih holds.dropLast later followed
          · rename_i down
            split at followed
            · rename_i there
              refine ih ⟨there, ?_⟩ later followed
              intro other member
              rcases List.mem_append.mp member with old | new
              · exact holds.proper other old
              · rw [List.mem_singleton.mp new]
                refine ⟨fun same => moves (Or.inl same), fun same => moves (Or.inr same), down, ?_⟩
                simpa [PathName.hasNul] using here
            · cases followed
      · cases followed

/-- Spelled as a path, a place that holds something leads to itself. -/
theorem follow_names (holds : tree.Holds (place ++ rest)) :
    tree.follow place (FilePath.names rest) = .ok (place ++ rest) := by
  -- By induction on what is left of the place: something stands at every place above it.
  induction rest generalizing place with
  | nil => simp [FilePath.names, follow]
  | cons name behind ih =>
    have proper := holds.proper name (by simp)
    have whole : place ++ name :: behind = (place ++ [name]) ++ behind := by simp
    have inside : tree.Holds (place ++ [name]) := (whole ▸ holds).above
    have moves : ¬ (name = "" ∨ name = ".") := fun stays => stays.elim proper.filled proper.stays
    rw [FilePath.names, List.map_cons, follow, if_pos (isDirectory_of_get? holds.there)]
    -- Each name leads to the entry of its own.
    rw [if_neg moves, if_neg proper.below, if_pos inside.there, whole]
    exact ih (whole ▸ holds)

/-- The place that a path leads to leads to itself. -/
theorem resolve_names {path : List PathName} (resolved : tree.resolve path = .ok place) :
    tree.resolve (FilePath.names place) = .ok place := by
  unfold resolve at resolved
  split at resolved
  · cases resolved
  · rename_i clean
    have plain : ∀ name ∈ path, name.hasNul = false := by simpa using clean
    -- The root of the tree is there, so the place is as well.
    have root : tree.Holds [] := ⟨by cases tree <;> rfl, by simp⟩
    have holds := follow_holds root plain resolved
    have again : tree.follow [] (FilePath.names place) = .ok place := follow_names holds
    unfold resolve
    rw [if_neg, again]
    -- A name with a NUL would be one of the place, whose names are proper.
    intro null
    obtain ⟨name, member, inside⟩ := List.any_eq_true.mp null
    obtain ⟨text, present, rfl⟩ := List.mem_map.mp member
    exact (holds.proper text present).plain (by simpa [PathName.hasNul] using inside)

end FileTree

namespace Session

/-- The document of a place is answered when it is asked for under that place. -/
theorem document_of_place {tree : FileTree} {session : Session} {path : List PathName}
    {place : FilePath} {document : Document} (resolved : tree.resolve path = .ok place)
    (found : session.documentAt? tree place = some document) :
    ∃ after, runFrom (Session.document tree path) session = (.ok document, after) ∧
      after.documentAt? tree = session.documentAt? tree := by
  -- The path leads to the place, so the request is the one for that place.
  cases ran : runFrom (Session.document tree path) session with
  | mk answer after =>
    have keeps := document_keeps ran
    rw [runFrom_document, resolved] at ran
    dsimp only at ran
    -- It was read before, or it is read now.
    unfold documentAt? at found
    cases known : session.find? place with
    | some held =>
      rw [known] at ran found
      cases ran
      cases found
      exact ⟨_, rfl, keeps⟩
    | none =>
      rw [known] at ran found
      cases loaded : load tree place with
      | error fault =>
        rw [loaded] at found
        cases found
      | ok read =>
        rw [loaded] at ran found
        cases ran
        cases found
        exact ⟨_, rfl, keeps⟩

end Session

/-! ### Proper trees -/

namespace FileTree

/-- The names in every directory differ, and each is one that a file can have. -/
inductive Proper : FileTree → Prop
  | file {content : Option String} : Proper (.file content)
  | directory {entries : List (String × FileTree)} (names : (entries.map Prod.fst).Nodup)
      (each : ∀ entry ∈ entries, ProperName entry.1 ∧ '/' ∉ entry.1.toList)
      (below : ∀ entry ∈ entries, Proper entry.2) : Proper (.directory entries)

/-- A directory without entries is proper. -/
theorem Proper.empty : (FileTree.directory []).Proper :=
  .directory List.nodup_nil (by simp) (by simp)

/-- A proper entry under a new name can be put in front of a proper directory. -/
theorem Proper.add {name : String} {inner : FileTree} {entries : List (String × FileTree)}
    (fresh : name ∉ entries.map Prod.fst) (plain : ProperName name ∧ '/' ∉ name.toList)
    (proper : inner.Proper) (others : (FileTree.directory entries).Proper) :
    (FileTree.directory ((name, inner) :: entries)).Proper := by
  -- Names stay distinct, and the new entry is as proper as the others.
  cases others with
  | directory names each below =>
    refine .directory (List.nodup_cons.mpr ⟨fresh, names⟩) ?_ ?_
    · exact List.forall_mem_cons.mpr ⟨plain, each⟩
    · exact List.forall_mem_cons.mpr ⟨proper, below⟩

mutual

/-- What holds of a directory as soon as it holds of its entries holds of every tree. -/
theorem entries_induction {P : FileTree → Prop} (file : ∀ content, P (.file content))
    (directory : ∀ entries : List (String × FileTree), (∀ entry ∈ entries, P entry.2) →
      P (.directory entries)) : ∀ tree, P tree
  | .file content => file content
  | .directory entries => directory entries (entries_induction_list file directory entries)

/-- What entries pass on to directories holds of the entries of a list. -/
theorem entries_induction_list {P : FileTree → Prop} (file : ∀ content, P (.file content))
    (directory : ∀ entries : List (String × FileTree), (∀ entry ∈ entries, P entry.2) →
      P (.directory entries)) : ∀ entries : List (String × FileTree), ∀ entry ∈ entries, P entry.2
  | [] => by simp
  | (_, tree) :: rest =>
    List.forall_mem_cons.mpr ⟨entries_induction file directory tree,
      entries_induction_list file directory rest⟩

end

/-- What stands at a place of a proper tree is proper, and so are the names on the way. -/
theorem Proper.get? {tree found : FileTree} {place : FilePath} (proper : tree.Proper)
    (there : tree.get? place = some found) :
    found.Proper ∧ ∀ name ∈ place, ProperName name ∧ '/' ∉ name.toList := by
  -- By induction on the place: each name leads to an entry, and entries are proper.
  induction place generalizing tree with
  | nil =>
    cases there
    exact ⟨proper, by simp⟩
  | cons name rest ih =>
    cases proper with
    | file => cases there
    | directory names each below =>
      obtain ⟨inner, known, there⟩ := Option.bind_eq_some_iff.mp there
      have member := lookupMember?_mem known
      obtain ⟨proper, later⟩ := ih (below _ member) there
      exact ⟨proper, List.forall_mem_cons.mpr ⟨each _ member, later⟩⟩

end FileTree

end SpecTrace
