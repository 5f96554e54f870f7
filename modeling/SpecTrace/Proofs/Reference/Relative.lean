import SpecTrace.Proofs.Reference.Files

/-! Relative references that stay below a directory: wherever the directory lies, they lead to the
same names below it. -/

namespace SpecTrace

/-- No name leads above the directory that is a number of directories up. -/
def FilePath.staysInside : Nat → List PathName → Bool
  | _, [] => true
  | depth, .bytes _ :: rest => staysInside (depth + 1) rest
  | depth, .text name :: rest =>
    if name = "" ∨ name = "." then staysInside depth rest
    else if name = ".." then 0 < depth && staysInside (depth - 1) rest
    else staysInside (depth + 1) rest

namespace Reference

/-- A relative path: no scheme is in front of it, and it starts neither at the root nor at a
drive. -/
structure IsRelative (document : String) : Prop where
  bare : Url.splitScheme? (Url.prepared document.toList) = none
  noSlash : (Url.prepared document.toList).head? ≠ some '/'
  noBackslash : (Url.prepared document.toList).head? ≠ some '\\'
  noDrive : Url.startsWithDriveLetter (Url.prepared document.toList) = false

/-- The path of the URL that a reference leads to, seen from a file and without the directory that
the path of the file is taken from. -/
def pathBelow (referrer : FilePath) (document : String) : List Char :=
  let text := Url.prepared document.toList
  if text.head?.all fun c => c = '?' || c = '#' then Url.spelled referrer
  else Url.descend (Url.popSegment .file (Url.spelled referrer)) (Url.segments text)

/-- The names that a reference leads through below that directory. -/
def namesBelow (referrer : FilePath) (document : String) : List PathName :=
  Url.fileNames (pathBelow referrer document).tail

/-- A reference in a file below a directory is a relative path that never climbs above the
directory: neither with the segments of the URL, nor with the names that these are decoded to. -/
structure StaysBelow (referrer : FilePath) (document : String) : Prop where
  relative : IsRelative document
  segments :
    Url.staysWithin (referrer.length - 1) (Url.segments (Url.prepared document.toList)) = true
  names : FilePath.staysInside 0 (namesBelow referrer document) = true

/-- Nothing that stands directly in the directory is taken for a drive: a reference enters no name
there that begins with a drive letter, and the file that it stands in, if that is there, is not named
like a drive. -/
structure Driveless (referrer : FilePath) (document : String) : Prop where
  file : ∀ name, referrer = [name] →
    Url.isNormalDriveLetter (Percent.encode Url.isEncodedInSegment name.toList) = false
  segments :
    Url.entersNoDrive (referrer.length - 1) (Url.segments (Url.prepared document.toList)) = true

/-- Whether a reference is a relative path can be computed. -/
instance (document : String) : Decidable (IsRelative document) :=
  decidable_of_iff (Url.splitScheme? (Url.prepared document.toList) = none ∧
      (Url.prepared document.toList).head? ≠ some '/' ∧
      (Url.prepared document.toList).head? ≠ some '\\' ∧
      Url.startsWithDriveLetter (Url.prepared document.toList) = false)
    ⟨fun ⟨bare, slash, backslash, drive⟩ => ⟨bare, slash, backslash, drive⟩,
      fun relative => ⟨relative.bare, relative.noSlash, relative.noBackslash, relative.noDrive⟩⟩

/-- Whether a reference stays below a directory can be computed. -/
instance (referrer : FilePath) (document : String) : Decidable (StaysBelow referrer document) :=
  decidable_of_iff (IsRelative document ∧
      Url.staysWithin (referrer.length - 1) (Url.segments (Url.prepared document.toList)) = true ∧
      FilePath.staysInside 0 (namesBelow referrer document) = true)
    ⟨fun ⟨relative, segments, names⟩ => ⟨relative, segments, names⟩,
      fun stays => ⟨stays.relative, stays.segments, stays.names⟩⟩

/-- Whether something looks like a drive can be computed. -/
instance (referrer : FilePath) (document : String) : Decidable (Driveless referrer document) :=
  decidable_of_iff ((∀ name ∈ referrer, referrer.length = 1 →
      Url.isNormalDriveLetter (Percent.encode Url.isEncodedInSegment name.toList) = false) ∧
      Url.entersNoDrive (referrer.length - 1) (Url.segments (Url.prepared document.toList)) = true)
    (by
      constructor
      · rintro ⟨file, segments⟩
        refine ⟨?_, segments⟩
        rintro name rfl
        exact file name List.mem_cons_self rfl
      · rintro ⟨file, segments⟩
        refine ⟨fun name member single => file name ?_, segments⟩
        obtain ⟨other, rfl⟩ := List.length_eq_one_iff.mp single
        rw [List.mem_singleton.mp member])

variable {directory referrer : FilePath} {document : String}

/-- The base of a reference in a file below a directory: the name of the file goes, and the
directory stays in front. -/
theorem popSegment_spelled (some_name : referrer ≠ []) :
    (∀ front, Url.popSegment .file (front ++ Url.spelled referrer) =
        front ++ Url.popSegment .file (Url.spelled referrer)) ∧
      (Url.popSegment .file (Url.spelled referrer)).head? = some '/' ∧
      (Url.popSegment .file (Url.spelled referrer)).count '/' = referrer.length ∧
      (Driveless referrer document → referrer.length - 1 = 0 →
        (Url.popSegment .file (Url.spelled referrer)).getLast? = some '/') := by
  obtain ⟨above, last, rfl⟩ : ∃ above last, referrer = above ++ [last] :=
    ⟨_, _, (List.dropLast_concat_getLast some_name).symm⟩
  have free : '/' ∉ Percent.encode Url.isEncodedInSegment last.toList :=
    Percent.slash_not_mem_encode rfl last.toList
  -- The name of the file is what stands behind the last slash.
  have shape : Url.spelled (above ++ [last]) = Url.spelled above ++
      '/' :: Percent.encode Url.isEncodedInSegment last.toList := by
    rw [Url.spelled_append]
    simp [Url.spelled]
  have popped := Url.popSegment_split (Url.spelled above) free
  rw [shape, popped]
  refine ⟨fun front => ?_, ?_, ?_, fun driveless top => ?_⟩
  · rw [← List.append_assoc, Url.popSegment_split _ free, List.append_assoc]
  · -- The slash at the beginning is that of the first directory, or of the file.
    cases above with
    | nil => rfl
    | cons first rest => rfl
  · have none : List.count '/' (if Url.isNormalDriveLetter
        (Percent.encode Url.isEncodedInSegment last.toList)
        then Percent.encode Url.isEncodedInSegment last.toList else []) = 0 := by
      split
      · exact List.count_eq_zero.mpr free
      · rfl
    rw [List.count_append, List.count_cons_self, none, Url.count_spelled, List.length_append]
    rfl
  · -- Only a file of the directory itself could stay as a drive.
    have single : above = [] := by
      rw [List.length_append, List.length_singleton, Nat.add_sub_cancel] at top
      exact List.length_eq_zero_iff.mp top
    subst single
    rw [driveless.file last rfl, if_neg Bool.false_ne_true, List.getLast?_concat]

/-- A spelled directory begins with one slash. -/
theorem dropWhile_spelled (plain : directory.Plain) (some_name : directory ≠ []) (rest : List Char) :
    '/' :: (Url.spelled directory ++ rest).dropWhile (· = '/') = Url.spelled directory ++ rest := by
  obtain ⟨name, more, rfl⟩ := List.exists_cons_of_ne_nil some_name
  have filled : name.toList ≠ [] := by
    intro none
    exact (plain name List.mem_cons_self).1.filled (String.toList_injective none)
  have free : '/' ∉ Percent.encode Url.isEncodedInSegment name.toList :=
    Percent.slash_not_mem_encode rfl name.toList
  -- The first name is not empty, so that something stands behind the first slash.
  obtain ⟨c, later, shape⟩ : ∃ c later, Percent.encode Url.isEncodedInSegment name.toList = c :: later := by
    obtain ⟨first, others, chars⟩ := List.exists_cons_of_ne_nil filled
    rw [chars, Percent.encode, List.flatMap_cons]
    split
    · -- A character has at least one byte, and its escape begins with a percent sign.
      obtain ⟨b, bytes, encoded, _⟩ := Utf8.utf8EncodeChar_first first
      have some_byte : Utf8.encode [first] = b :: bytes := by
        rw [← encoded]
        simp [Utf8.encode]
      rw [some_byte, List.flatMap_cons]
      exact ⟨_, _, rfl⟩
    · exact ⟨_, _, rfl⟩
  have other : c ≠ '/' := by
    rintro rfl
    exact free (by simp [shape])
  have whole : Url.spelled (name :: more) ++ rest = '/' :: c :: (later ++ (Url.spelled more ++ rest)) := by
    rw [Url.spelled, List.flatMap_cons, ← Url.spelled, shape]
    simp
  rw [whole, List.dropWhile_cons_of_pos (by simp), List.dropWhile_cons_of_neg (by simpa using other)]

/-- A relative reference is read onto the path of the file that it stands in. -/
theorem join?_relative (relative : IsRelative document) (base : List Char) :
    Url.join? base document.toList = some ⟨"file".toList, none,
      if (Url.prepared document.toList).head?.all fun c => c = '?' || c = '#' then base
      else (Url.readPath .file (Url.gapsIn (Url.trimmed document.toList)) true
        (Url.popSegment .file base) (Url.prepared document.toList)).1⟩ := by
  -- The text is not absolute, so it goes on from the path of the base.
  have noSlash := relative.noSlash
  have noBackslash := relative.noBackslash
  have noDrive := relative.noDrive
  rw [Url.join?, relative.bare]
  dsimp only
  generalize Url.prepared document.toList = text at noSlash noBackslash noDrive ⊢
  cases text with
  | nil => rfl
  | cons c rest =>
    have other : c ≠ '/' ∧ c ≠ '\\' := by simpa using And.intro noSlash noBackslash
    simp only [Url.parseFile?, List.head?_cons, Option.some.injEq, other.1, other.2, decide_false,
      Bool.or_false, Bool.false_eq_true, if_false, Option.all_some, Bool.or_eq_true, decide_eq_true_eq,
      noDrive]
    split <;> rfl

/-- A relative reference that stays below a directory leads to names there. The directory lies in
front of them, and has no other influence; only empty names at the beginning may be missing at the
root of the file system, where nothing may be taken for a drive. -/
theorem resolve?_below (place : directory.Plain) (plain : referrer.Plain) (some_name : referrer ≠ [])
    (stays : StaysBelow referrer document)
    (hostless : directory ≠ [] ∨ Driveless referrer document) :
    ∃ n names, namesBelow referrer document = List.replicate n (.text "") ++ names ∧
      resolve? (directory ++ referrer).text document = some (directory.names ++ names) := by
  have base : Url.ofFile? (directory ++ referrer).text =
      some (Url.spelled directory ++ Url.spelled referrer) := by
    rw [Url.ofFile?_text (place.append plain) (by simp [some_name]), Url.spelled_append]
  -- Without a scheme the reference is no URL of its own.
  have unschemed : Url.parse? document.toList = none := by
    rw [Url.parse?, stays.relative.bare]
    rfl
  -- All that is left is the path of the joined URL.
  have joined : ∀ path, Url.join? (Url.spelled directory ++ Url.spelled referrer) document.toList =
      some ⟨"file".toList, none, path⟩ →
      resolve? (directory ++ referrer).text document =
        Url.toFile? ⟨"file".toList, none, path⟩ := by
    intro path join
    rw [resolve?, unschemed]
    simp only [base, join, Option.bind_eq_bind, Option.bind_some]
  have join := join?_relative stays.relative (Url.spelled directory ++ Url.spelled referrer)
  rw [joined _ join, namesBelow, pathBelow]
  split
  · -- Nothing is left of the reference, which leads to the file that it stands in.
    obtain ⟨rest, shape⟩ : ∃ rest, Url.spelled referrer = '/' :: rest := by
      obtain ⟨name, more, rfl⟩ := List.exists_cons_of_ne_nil some_name
      exact ⟨_, rfl⟩
    refine ⟨0, _, rfl, ?_⟩
    rw [shape, List.tail_cons]
    exact Url.toFile?_spelled place rest
  · obtain ⟨popped, rooted, count, ends⟩ := @popSegment_spelled referrer document some_name
    -- There are as many slashes in front of the file as directories to go up, and one more.
    have deep : referrer.length - 1 + 1 ≤
        (Url.popSegment .file (Url.spelled referrer)).count '/' := by
      have filled := List.length_pos_iff.mpr some_name
      omega
    -- What keeps drives away below the directory keeps them away in the whole path.
    have open_host : Url.Hostless (Url.spelled directory) (Url.popSegment .file (Url.spelled referrer))
        (referrer.length - 1) (Url.segments (Url.prepared document.toList)) := by
      refine hostless.imp (fun some_directory => ?_) fun driveless => ⟨ends driveless, driveless.segments⟩
      obtain ⟨name, more, rfl⟩ := List.exists_cons_of_ne_nil some_directory
      exact List.cons_ne_nil _ _
    have read := Url.readSegments_eq (Url.gapsIn (Url.trimmed document.toList)) false
      (Nat.lt_succ_self (Url.prepared document.toList).length) deep stays.segments open_host
    -- The path below the directory begins with a slash, which ends the names of the directory.
    have head := Url.descend_head deep stays.segments rooted
    rw [popped, Url.readPath]
    simp only [read]
    obtain ⟨rest, shape⟩ : ∃ rest, Url.descend (Url.popSegment .file (Url.spelled referrer))
        (Url.segments (Url.prepared document.toList)) = '/' :: rest :=
      List.head?_eq_some_iff.mp head
    rw [shape, List.tail_cons]
    by_cases root : directory = []
    · -- At the root of the file system, slashes at the beginning are one.
      subst root
      obtain ⟨n, same⟩ := Url.fileNames_slashes rest
      refine ⟨n, _, same, ?_⟩
      have dropped : (Url.spelled [] ++ '/' :: rest).dropWhile (· = '/') = rest.dropWhile (· = '/') :=
        List.dropWhile_cons_of_pos (by simp)
      rw [if_pos trivial, dropped]
      rfl
    · refine ⟨0, _, rfl, ?_⟩
      rw [if_pos trivial, dropWhile_spelled place root]
      exact Url.toFile?_spelled place rest

end Reference

end SpecTrace
