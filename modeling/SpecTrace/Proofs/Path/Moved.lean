import SpecTrace.Document.Format
import SpecTrace.Proofs.Pointer.Fragment
import SpecTrace.Proofs.Workspace.Places
import SpecTrace.Reference.Reference

/-! Paths spelled as text, and what of them does not depend on the directory that they begin with. -/

namespace SpecTrace

/-! ### Components -/

/-- A part of a path has the text of the component that it stands for. -/
theorem text_of_innerComponent? {part : String} {component : PathComponent}
    (stands : innerComponent? part = some component) : component.text = part := by
  -- A part stands for nothing, for the directory above or for a name.
  unfold innerComponent? at stands
  split at stands
  · cases stands
  · split at stands
    · rename_i parent
      cases stands
      exact parent.symm
    · cases stands
      rfl

/-- The parts of a path that does not begin with a slash begin with one that is not empty. -/
-- Whatever the rest is split into, the character joins its first part.
theorem splitText_of_ne_slash {path : String} {c : Char} {chars : List Char}
    (begins : path.toList = c :: chars) (other : c ≠ '/') :
    ∃ first rest, splitText '/' path = first :: rest ∧ first ≠ "" := by
  have filled : ∀ chars : List Char, String.ofList (c :: chars) ≠ "" := by
    intro chars same
    simpa using congrArg String.toList same
  rw [splitText, begins, splitChars, if_neg other]
  split
  · exact ⟨_, _, rfl, filled _⟩
  · exact ⟨_, _, rfl, filled _⟩

/-- The components of an absolute path are the root and those of its parts. -/
theorem pathComponents_of_absolute {path : String} (absolute : isAbsolutePath path = true) :
    pathComponents path = .root :: (splitText '/' path).filterMap innerComponent? := by
  obtain ⟨rest, chars⟩ := List.head?_eq_some_iff.mp (of_decide_eq_true absolute)
  have filled : path ≠ "" := by
    rintro rfl
    cases chars
  -- The slash in front leaves an empty part before it, which is no component.
  have parts : splitText '/' path = "" :: (splitChars '/' rest).map String.ofList := by
    rw [splitText, chars, splitChars, if_pos rfl, List.map_cons]
  have nothing : innerComponent? "" = none := by decide
  rw [pathComponents, parts, List.filterMap_cons_none nothing]
  dsimp only
  rw [if_neg filled, if_pos rfl]

/-- The components of any other path are those of its parts, but for a dot in front. -/
theorem pathComponents_of_relative {path : String} (relative : isAbsolutePath path = false) :
    -- A dot in front is listed as the current directory, which the filter takes out.
    (pathComponents path).filter (· ≠ .current) = (splitText '/' path).filterMap innerComponent? := by
  -- A path is empty or begins with a character, which is no slash since the path is relative.
  cases chars : path.toList with
  | nil =>
    have empty : path = "" := String.toList_injective chars
    subst empty
    decide
  | cons c rest =>
    have other : c ≠ '/' := by
      rintro rfl
      simp [isAbsolutePath, chars] at relative
    obtain ⟨first, rest, parts, begins⟩ := splitText_of_ne_slash chars other
    have filled : path ≠ "" := by
      rintro rfl
      cases chars
    -- A dot that a part stands for is never listed.
    have kept : ∀ parts : List String, (parts.filterMap innerComponent?).filter (· ≠ .current) =
        parts.filterMap innerComponent? := by
      intro parts
      refine List.filter_eq_self.mpr fun component member => ?_
      obtain ⟨part, _, stands⟩ := List.mem_filterMap.mp member
      refine decide_eq_true fun current => ?_
      rw [current] at stands
      have dot := text_of_innerComponent? stands
      rw [← dot] at stands
      cases stands
    rw [pathComponents, parts]
    dsimp only
    rw [if_neg filled, if_neg begins]
    split
    · rename_i dot
      subst dot
      have nothing : innerComponent? "." = none := by decide
      rw [List.filterMap_cons_none nothing, List.filter_cons_of_neg (by simp), kept]
    · -- Any other part in front is read as the parts behind it are.
      have whole : (innerComponent? first).toList ++ rest.filterMap innerComponent? =
          (first :: rest).filterMap innerComponent? := by
        cases stands : innerComponent? first with
        | none => simp [stands]
        | some component => simp [stands]
      rw [whole, kept]

/-! ### Paths below a directory -/

/-- Names as files have them, which a path text spells one by one. -/
def FilePath.Plain (path : FilePath) : Prop :=
  ∀ name ∈ path, ProperName name ∧ '/' ∉ name.toList

/-- Whether a path has such names can be computed. -/
instance (path : FilePath) : Decidable path.Plain :=
  inferInstanceAs (Decidable (∀ name ∈ path, ProperName name ∧ '/' ∉ name.toList))

namespace FilePath

variable {directory path other : FilePath}

/-- Paths behind one another are plain if both are. -/
theorem Plain.append (first : directory.Plain) (second : path.Plain) : (directory ++ path).Plain :=
  List.forall_mem_append.mpr ⟨first, second⟩

/-- The directory of a plain path is plain. -/
theorem Plain.dropLast (plain : path.Plain) : Plain path.dropLast :=
  fun name member => plain name (List.dropLast_subset _ member)

/-- Names with separators between them are told apart at the separators. -/
theorem splitChars_intercalate {separator : Char} {names : List (List Char)}
    (some_name : names ≠ []) (free : ∀ name ∈ names, separator ∉ name) :
    splitChars separator ([separator].intercalate names) = names := by
  -- By induction on the names; the separator behind a name ends it.
  induction names with
  | nil => exact absurd rfl some_name
  | cons name rest ih =>
    obtain ⟨here, later⟩ := List.forall_mem_cons.mp free
    cases rest with
    | nil =>
      rw [List.intercalate_singleton]
      exact splitChars_of_not_mem here
    | cons next rest =>
      rw [List.intercalate_cons_cons, List.append_assoc, List.singleton_append,
        splitChars_append here, ih (List.cons_ne_nil _ _) later]

/-- The parts of a text with the separators between them are the text. -/
theorem intercalate_splitChars (separator : Char) (text : List Char) :
    [separator].intercalate (splitChars separator text) = text := by
  -- By induction on the text.
  induction text with
  | nil => rfl
  | cons c rest ih =>
    rw [splitChars]
    cases parts : splitChars separator rest with
    | nil =>
      rw [parts] at ih
      subst ih
      cases parts
    | cons part others =>
      rw [parts] at ih
      split
      · -- The character is the separator, and an empty part stands before it.
        rename_i same
        rw [List.intercalate_cons_cons, ih, same]
        rfl
      · -- The character goes in front of the first part.
        cases others with
        | nil => rw [← ih, List.intercalate_singleton, List.intercalate_singleton]
        | cons _ _ =>
          rw [← ih, List.intercalate_cons_cons, List.intercalate_cons_cons, List.cons_append,
            List.cons_append]

/-- Plain names with slashes between them are the parts of a path. -/
theorem splitText_intercalate (plain : path.Plain) (some_name : path ≠ []) :
    splitText '/' ("/".intercalate path) = path := by
  -- The split is on characters, so the names are taken apart first. None of them has a slash.
  have free : ∀ name ∈ path.map String.toList, '/' ∉ name := by
    intro name member
    obtain ⟨spelled, listed, rfl⟩ := List.mem_map.mp member
    exact (plain spelled listed).2
  have chars : ("/".intercalate path).toList = ['/'].intercalate (path.map String.toList) :=
    String.toList_intercalate
  rw [splitText, chars, splitChars_intercalate (by simpa using some_name) free, List.map_map]
  simp

/-- Plain names stand for themselves. -/
theorem filterMap_innerComponent? (plain : path.Plain) :
    path.filterMap innerComponent? = path.map .name := by
  -- By induction on the path: a proper name is neither empty nor a dot nor two.
  induction path with
  | nil => rfl
  | cons name rest ih =>
    obtain ⟨⟨proper, _⟩, later⟩ := List.forall_mem_cons.mp plain
    have named : innerComponent? name = some (.name name) := by
      rw [innerComponent?, if_neg (not_or.mpr ⟨proper.filled, proper.stays⟩), if_neg proper.below]
    rw [List.filterMap_cons_some named, ih later, List.map_cons]

/-- The text of a place spells the root and its names. -/
theorem pathComponents_text (plain : path.Plain) :
    pathComponents path.text = .root :: path.map PathComponent.name := by
  -- The slash in front leaves an empty part before it.
  have parts : splitText '/' path.text = "" :: splitText '/' ("/".intercalate path) := by
    rw [splitText, FilePath.text, String.toList_append, splitText]
    rfl
  have absolute : isAbsolutePath path.text = true := by
    rw [isAbsolutePath, FilePath.text, String.toList_append]
    rfl
  have nothing : innerComponent? "" = none := by decide
  rw [pathComponents_of_absolute absolute, parts, List.filterMap_cons_none nothing]
  congr 1
  by_cases none : path = []
  · rw [none]
    rfl
  · rw [splitText_intercalate plain none, filterMap_innerComponent? plain]

/-- The name at the end of a place is that of its last entry. -/
theorem fileName?_text (plain : path.Plain) (last : String) (ends : path.getLast? = some last) :
    fileName? path.text = some last := by
  have listed : (PathComponent.root :: path.map PathComponent.name).getLast? = some (.name last) := by
    rw [List.getLast?_cons, List.getLast?_map, ends]
    rfl
  rw [fileName?, pathComponents_text plain, listed]

/-- The format of a file does not depend on the directory that it is below. -/
theorem ofPath_append (first : directory.Plain) (second : path.Plain) (below : path ≠ []) :
    Format.ofPath (directory ++ path).text = Format.ofPath path.text := by
  -- The format is told from the name at the end, which the directory leaves as it is.
  obtain ⟨last, ends⟩ : ∃ last, path.getLast? = some last :=
    ⟨_, List.getLast?_eq_some_getLast below⟩
  have whole : (directory ++ path).getLast? = some last := by
    rw [List.getLast?_append, ends, Option.some_or]
  rw [Format.ofPath, Format.ofPath, fileName?_text (first.append second) last whole,
    fileName?_text second last ends]

/-- Components that two paths begin with in common are counted first. -/
theorem commonLength_append (front as bs : List PathComponent) :
    commonLength (front ++ as) (front ++ bs) = front.length + commonLength as bs := by
  induction front with
  | nil => simp
  | cons a front ih =>
    rw [List.cons_append, List.cons_append, commonLength, if_pos rfl, ih, List.length_cons]
    omega

/-- The path from one place to another does not depend on the directory that both are below. -/
theorem relativePath_append (first : directory.Plain) (second : path.Plain) (third : other.Plain) :
    relativePath (directory ++ path).text (directory ++ other).text =
      relativePath path.text other.text := by
  rw [relativePath, relativePath, pathComponents_text (first.append second),
    pathComponents_text (first.append third), pathComponents_text second, pathComponents_text third]
  simp only [List.map_append, ← List.cons_append]
  -- The names of the directory are common to both paths, and neither climbs above them.
  have inner : ∀ as bs : List PathComponent,
      commonLength (.root :: as) (.root :: bs) = 1 + commonLength as bs :=
    fun as bs => commonLength_append [.root] as bs
  rw [commonLength_append, inner]
  simp only [List.length_append, List.length_cons, List.length_map]
  -- As many steps lead up, since the names of the directory are counted on both sides.
  have up : directory.length + 1 + path.length -
      (directory.length + 1 + commonLength (path.map .name) (other.map .name)) =
      path.length + 1 - (1 + commonLength (path.map .name) (other.map .name)) := by omega
  rw [up, ← List.drop_drop, List.drop_left' (by simp), Nat.add_comm 1, List.drop_succ_cons]

end FilePath

end SpecTrace
