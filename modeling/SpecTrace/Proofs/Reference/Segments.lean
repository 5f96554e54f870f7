import SpecTrace.Reference.Url
import Mathlib.Data.List.Basic

/-! How the segments of a relative reference move a file URL: as long as dots do not lead above a
directory, the path of the directory stays in front as it is, whatever it is. -/

namespace SpecTrace.Url

/-! ### Going up -/

/-- The last slash stands in front of everything without one. -/
theorem lastSlash?_split (front : List Char) {back : List Char} (plain : '/' ∉ back) :
    lastSlash? (front ++ '/' :: back) = some front.length := by
  -- Read from the end, what is behind the slash comes first.
  have behind : (front ++ '/' :: back).reverse.takeWhile (· ≠ '/') = back.reverse := by
    rw [List.reverse_append, List.reverse_cons, List.append_assoc, List.takeWhile_append_of_pos]
    · simp
    · intro c member
      have other : c ≠ '/' := fun same => plain (same ▸ List.mem_reverse.mp member)
      simpa using other
  unfold lastSlash?
  rw [behind, if_pos (by simp; omega)]
  simp only [List.length_reverse, List.length_append, List.length_cons]
  congr 1
  omega

/-- A text with a slash is cut at its last one. -/
theorem exists_lastSlash {path : List Char} (member : '/' ∈ path) :
    ∃ front back, path = front ++ '/' :: back ∧ '/' ∉ back := by
  obtain ⟨before, behind, split, plain⟩ := List.eq_append_cons_of_mem (List.mem_reverse.mpr member)
  refine ⟨behind.reverse, before.reverse, ?_, by simpa using plain⟩
  rw [← List.reverse_inj, split]
  simp

/-- The last segment goes, unless it is a drive letter. -/
theorem popSegment_split (front : List Char) {back : List Char} (plain : '/' ∉ back) :
    popSegment .file (front ++ '/' :: back) =
      front ++ '/' :: (if isNormalDriveLetter back then back else []) := by
  have whole : front ++ '/' :: back = (front ++ ['/']) ++ back := by simp
  have long : front.length + 1 = (front ++ ['/']).length := by simp
  -- The path is cut behind its last slash.
  have cut : (front ++ '/' :: back).drop (front.length + 1) = back := by
    rw [whole, long, List.drop_left]
  have kept : (front ++ '/' :: back).take (front.length + 1) = front ++ ['/'] := by
    rw [whole, long, List.take_left]
  unfold popSegment
  rw [lastSlash?_split front plain]
  dsimp only
  rw [cut, kept]
  simp only [true_and]
  split <;> rfl

/-- The slash at the end goes, unless a drive letter stands before it. -/
theorem dropLastSlash_split (front : List Char) {back : List Char} (plain : '/' ∉ back) :
    dropLastSlash (front ++ '/' :: (back ++ ['/'])) =
      front ++ '/' :: (if startsWithDriveSegment ('/' :: (back ++ ['/'])) then back ++ ['/'] else back) := by
  -- The slash at the end goes, and another one is the last then.
  have shorter : (front ++ '/' :: (back ++ ['/'])).dropLast = front ++ '/' :: back := by
    rw [← List.cons_append, ← List.append_assoc, List.dropLast_concat]
  have last : (front ++ '/' :: (back ++ ['/'])).getLast? = some '/' := by
    rw [← List.cons_append, ← List.append_assoc, List.getLast?_concat]
  have cut : (front ++ '/' :: (back ++ ['/'])).drop front.length = '/' :: (back ++ ['/']) := by simp
  unfold dropLastSlash
  rw [if_pos last, shorter, lastSlash?_split front plain]
  dsimp only
  rw [cut]
  split <;> rfl

/-- A path that does not end with a slash has none to drop. -/
theorem dropLastSlash_of_ne {path : List Char} (ends : path.getLast? ≠ some '/') :
    dropLastSlash path = path := by
  rw [dropLastSlash, if_neg ends]

/-- The path that two dots lead to. -/
def above (path : List Char) : List Char :=
  popSegment .file (dropLastSlash path)

/-- From a path with a slash at the end, two dots lead to the slash before it, unless a drive letter
stands between them. -/
theorem above_closed (before : List Char) {back : List Char} (plain : '/' ∉ back) :
    above (before ++ '/' :: (back ++ ['/'])) =
      before ++ '/' :: (if startsWithDriveSegment ('/' :: (back ++ ['/'])) then back ++ ['/']
        else if isNormalDriveLetter back then back else []) := by
  rw [above, dropLastSlash_split _ plain]
  split
  · -- The slash that is not dropped has no segment behind it.
    have closed := popSegment_split (before ++ '/' :: back) List.not_mem_nil
    have same : before ++ '/' :: (back ++ ['/']) = before ++ '/' :: back ++ ['/'] := by simp
    rw [same, closed]
    simp
  · rw [popSegment_split _ plain]

/-- From a path with a segment at the end, two dots lead to the slash in front of that, unless it is a
drive letter. -/
theorem above_open (before : List Char) {back : List Char} (some_back : back ≠ [])
    (plain : '/' ∉ back) :
    above (before ++ '/' :: back) =
      before ++ '/' :: (if isNormalDriveLetter back then back else []) := by
  -- The path does not end with a slash, so none is dropped.
  obtain ⟨start, last, rfl⟩ := (List.eq_nil_or_concat back).resolve_left some_back
  have other : last ≠ '/' := fun same => plain (by simp [same])
  have ends : (before ++ '/' :: start.concat last).getLast? ≠ some '/' := by
    have same : before ++ '/' :: start.concat last = (before ++ '/' :: start) ++ [last] := by simp
    rw [same, List.getLast?_concat]
    simpa using other
  rw [above, dropLastSlash_of_ne ends, popSegment_split _ plain]

/-- Two dots lead from a path to one that has no more than the last slash less. What is in front of
the part that they change stays, whatever it is. -/
theorem above_append {path : List Char} (deep : 2 ≤ path.count '/') :
    path.count '/' ≤ (above path).count '/' + 1 ∧
      ∀ front, above (front ++ path) = front ++ above path := by
  have member : '/' ∈ path := List.count_pos_iff.mp (by omega)
  obtain ⟨before, back, rfl, plain⟩ := exists_lastSlash member
  by_cases closed : back = []
  · -- A slash at the end is dropped first, and there is another one in front of it.
    subst closed
    rw [List.count_append, List.count_cons_self, List.count_nil] at deep
    have inner : '/' ∈ before := List.count_pos_iff.mp (by omega)
    obtain ⟨before, back, rfl, plain⟩ := exists_lastSlash inner
    rw [List.append_assoc, List.cons_append, above_closed before plain]
    refine ⟨?_, fun front => ?_⟩
    · split
      · omega
      · split <;> simp [List.count_append, List.count_eq_zero.mpr plain]
    · rw [← List.append_assoc, above_closed _ plain, List.append_assoc]
  · -- A segment that is still open goes, or it stays.
    rw [above_open before closed plain]
    refine ⟨?_, fun front => ?_⟩
    · split
      · omega
      · simp [List.count_append, List.count_eq_zero.mpr plain]
    · rw [← List.append_assoc, above_open _ closed plain, List.append_assoc]

/-- Two dots only take away from the end of a path. -/
theorem above_prefix (path : List Char) : above path <+: path := by
  -- Cutting off a segment leaves a beginning of the path, and so does dropping a slash.
  have popped : ∀ path : List Char, popSegment .file path <+: path := by
    intro path
    unfold popSegment
    split
    · split
      · exact List.prefix_rfl
      · exact List.take_prefix _ _
    · exact List.prefix_rfl
  have dropped : dropLastSlash path <+: path := by
    unfold dropLastSlash
    split
    · split
      · split
        · exact List.prefix_rfl
        · exact List.dropLast_prefix _
      · exact List.prefix_rfl
    · exact List.prefix_rfl
  exact (popped _).trans dropped

/-! ### Segments one by one -/

/-- The segments of a path in a URL: slashes and backslashes end them, and a question mark or a
number sign ends the path. -/
def segments : List Char → List (List Char)
  | [] => [[]]
  | c :: rest =>
    if c = '/' ∨ c = '\\' then [] :: segments rest
    else if c = '?' ∨ c = '#' then [[]]
    else
      match segments rest with
      | [] => [[c]]
      | segment :: others => (c :: segment) :: others

/-- Dots among the segments lead to no directory above the one that is a number of directories
up. -/
def staysWithin : Nat → List (List Char) → Bool
  | _, [] => true
  | depth, segment :: rest =>
    if plainDots segment = ['.', '.'] then 0 < depth && staysWithin (depth - 1) rest
    else if plainDots segment = ['.'] then staysWithin depth rest
    else staysWithin (depth + 1) rest

/-- The segment begins with a drive letter. -/
def beginsWithDrive (segment : List Char) : Bool :=
  isDriveLetter (segment.take 2)

/-- No segment that begins with a drive letter is entered from the directory that is a number of
directories up. -/
def entersNoDrive : Nat → List (List Char) → Bool
  | _, [] => true
  | depth, segment :: rest =>
    if plainDots segment = ['.', '.'] then entersNoDrive (depth - 1) rest
    else if plainDots segment = ['.'] then entersNoDrive depth rest
    else (0 < depth || !beginsWithDrive segment) && entersNoDrive (depth + 1) rest

/-- The path with a slash at its end. -/
def slashed (path : List Char) : List Char :=
  if path.getLast?.all (· = '/') then path else path ++ ['/']

/-- The path that a segment leads to; `slash` says that a slash ends it. -/
def enter (path segment : List Char) (slash : Bool) : List Char :=
  if plainDots segment = ['.', '.'] then if slash then slashed (above path) else above path
  else if plainDots segment = ['.'] then slashed path
  else path ++ segment ++ (if slash then ['/'] else [])

/-- The path that segments lead to one after the other; a slash ends all but the last one. -/
def descend : List Char → List (List Char) → List Char
  | path, [] => path
  | path, [segment] => enter path segment false
  | path, segment :: next :: rest => descend (enter path segment true) (next :: rest)

/-- There is always a segment, if only an empty one. -/
theorem exists_segments (input : List Char) : ∃ segment others, segments input = segment :: others := by
  -- Each way to go on puts a segment in front, and the end of the input is an empty one.
  cases input with
  | nil => exact ⟨[], [], rfl⟩
  | cons c rest =>
    rw [segments]
    split
    · exact ⟨_, _, rfl⟩
    · split
      · exact ⟨_, _, rfl⟩
      · split <;> exact ⟨_, _, rfl⟩

/-- No beginning of a segment makes a drive letter of the path that it is read onto. -/
def Calm (path segment : List Char) : Prop :=
  ∀ front, front <+: segment → isNormalDriveLetter (path ++ front).tail = false

/-- A drive letter has no slash. -/
theorem isNormalDriveLetter_of_mem {text : List Char} (member : '/' ∈ text) :
    isNormalDriveLetter text = false := by
  -- A drive letter is a letter and a colon or a bar, and the slash is none of them.
  rw [isNormalDriveLetter, Bool.and_eq_false_iff]
  left
  unfold isDriveLetter
  split
  · rename_i letter mark
    have either : '/' = letter ∨ '/' = mark := by simpa using member
    rcases either with rfl | rfl
    · rw [Bool.and_eq_false_iff]
      exact .inl (by decide)
    · simp
  · rfl

/-- A path with a slash behind its first character is calm. -/
theorem calm_of_mem {path : List Char} (member : '/' ∈ path.tail) (segment : List Char) :
    Calm path segment := by
  intro front _
  apply isNormalDriveLetter_of_mem
  cases path with
  | nil => cases member
  | cons first rest => exact List.mem_append_left _ member

/-- Where it is calm, a segment is read as it is written. -/
theorem readSegment_eq (gaps : List Nat) (gap : Bool) {path : List Char} (start : Nat)
    {input segment : List Char} {others : List (List Char)} (filled : path ≠ [])
    (cut : segments input = segment :: others) (calm : Calm path segment) :
    ∃ slash rest, readSegment .file gaps gap path start input =
        ⟨path ++ segment ++ (if slash then ['/'] else []), start, slash, rest⟩ ∧
      others = (if slash then segments rest else []) ∧
      (slash = true → rest.length < input.length) := by
  -- The path grows by each character of the segment, and calm is kept on the way.
  induction input generalizing path gap segment with
  | nil =>
    cases cut
    exact ⟨false, [], by simp [readSegment], rfl, by simp⟩
  | cons c rest ih =>
    have quiet := calm [] List.nil_prefix
    rw [List.append_nil] at quiet
    rw [segments] at cut
    have special : SchemeKind.isSpecial .file = true := rfl
    split at cut
    · -- A slash or a backslash ends the segment.
      rename_i separator
      cases cut
      refine ⟨true, rest, ?_, rfl, by simp⟩
      rw [readSegment, if_pos (by simpa [special] using separator)]
      simp
    · rename_i inside
      split at cut
      · -- The path ends.
        rename_i ends
        cases cut
        refine ⟨false, c :: rest, ?_, rfl, by simp⟩
        rw [readSegment, if_neg (by simpa [special] using inside), if_pos ends]
        simp
      · rename_i goes_on
        obtain ⟨first, more, known⟩ := exists_segments rest
        rw [known] at cut
        obtain ⟨rfl, rfl⟩ := List.cons.inj cut
        -- What begins the rest of the segment begins the segment if the character is put in front.
        have next : Calm (path ++ [c]) first := by
          intro front begins
          have longer := calm (c :: front) (List.cons_prefix_cons.mpr ⟨rfl, begins⟩)
          rwa [List.append_assoc, List.singleton_append]
        obtain ⟨slash, left, read, shape, shorter⟩ :=
          ih (gaps.contains rest.length) (by simp) known next
        refine ⟨slash, left, ?_, shape, fun ended => ?_⟩
        · rw [readSegment, if_neg (by simpa [special] using inside), if_neg goes_on,
            if_neg (by simp [quiet]), read]
          simp
        · have := shorter ended
          rw [List.length_cons]
          omega

/-- A segment that was read onto a path is closed, if it is no drive letter in the place of a
host. -/
theorem closeSegment_eq {path segment rest : List Char} (slash : Bool)
    (inner : path.length = 1 → isDriveLetter segment = false) :
    (closeSegment .file true
      ⟨path ++ segment ++ (if slash then ['/'] else []), path.length, slash, rest⟩).1 =
      enter path segment slash := by
  -- What is behind the path is the segment and perhaps its slash; these are the two parts that the
  -- step cuts out.
  have content : (path ++ segment ++ (if slash then ['/'] else [])).drop path.length =
      segment ++ (if slash then ['/'] else []) := by
    rw [List.append_assoc, List.drop_left]
  have before : (path ++ segment ++ (if slash then ['/'] else [])).take path.length = path := by
    rw [List.append_assoc, List.take_left]
  have closed : (if slash then (segment ++ (if slash then ['/'] else [])).dropLast
      else segment ++ (if slash then ['/'] else [])) = segment := by
    cases slash <;> simp
  have ending : ∀ text : List Char,
      (if (if text.isEmpty = true then true else decide (text.getLast? = some '/')) = true then text
        else text ++ ['/']) = slashed text := by
    intro text
    unfold slashed
    rcases List.eq_nil_or_concat text with rfl | ⟨start, last, rfl⟩
    · rfl
    · simp
  have other : ¬ (True ∧ path.length = 1 ∧ isDriveLetter segment = true) := by
    rintro ⟨_, one, drive⟩
    rw [inner one] at drive
    cases drive
  -- With the drive letter excluded, both sides tell dots from other segments alike.
  unfold closeSegment enter
  dsimp only
  rw [content, before, closed]
  simp only [ending]
  split
  · rfl
  · split
    · rfl
    · rfl

/-- Nothing but a slash is put at the end of a path. -/
theorem slashed_append {path : List Char} (filled : path ≠ []) (front : List Char) :
    slashed (front ++ path) = front ++ slashed path := by
  obtain ⟨start, last, rfl⟩ : ∃ start last, path = start ++ [last] :=
    ⟨_, _, (List.dropLast_concat_getLast filled).symm⟩
  unfold slashed
  rw [← List.append_assoc, List.getLast?_concat, List.getLast?_concat]
  split <;> simp

/-- A slash at the end makes no path have less slashes. -/
theorem count_slashed (path : List Char) : path.count '/' ≤ (slashed path).count '/' := by
  unfold slashed
  split
  · exact Nat.le_refl _
  · rw [List.count_append]
    omega

/-- What is behind a slash at the beginning has one at its end. -/
theorem slashed_ends {path : List Char} (filled : path ≠ []) : (slashed path).getLast? = some '/' := by
  -- The last character decides whether a slash is added.
  obtain ⟨start, last, rfl⟩ : ∃ start last, path = start ++ [last] :=
    ⟨_, _, (List.dropLast_concat_getLast filled).symm⟩
  unfold slashed
  rw [List.getLast?_concat]
  split
  · rename_i same
    simpa using same
  · rw [List.getLast?_concat]

/-- A segment that leads to no directory above the one that is `depth` directories up changes
nothing in front of that. With a slash at its end, it leaves room for those that follow it. -/
theorem enter_append {path segment : List Char} {others : List (List Char)} {depth : Nat}
    (deep : depth + 1 ≤ path.count '/') (stays : staysWithin depth (segment :: others) = true)
    (slash : Bool) :
    (∀ front, enter (front ++ path) segment slash = front ++ enter path segment slash) ∧
      (slash = true → ∃ next, staysWithin next others = true ∧
        (entersNoDrive depth (segment :: others) = true → entersNoDrive next others = true) ∧
        next + 1 ≤ (enter path segment slash).count '/' ∧
        (enter path segment slash).getLast? = some '/') := by
  -- A path that is deep enough is not empty, so there is something to go up from.
  have filled : path ≠ [] := by
    rintro rfl
    simp at deep
  rw [staysWithin] at stays
  rw [entersNoDrive]
  unfold enter
  -- Two dots go up, one dot stays, and any other segment goes down.
  by_cases up : plainDots segment = ['.', '.']
  · simp only [if_pos up] at stays ⊢
    rw [Bool.and_eq_true, decide_eq_true_eq] at stays
    -- Going up takes one slash, and one more is left in front of it.
    obtain ⟨less, same⟩ := above_append (show 2 ≤ path.count '/' by omega)
    have inner : above path ≠ [] := by
      intro none
      rw [none, List.count_nil] at less
      omega
    refine ⟨fun front => ?_, fun ended => ⟨depth - 1, stays.2, id, ?_, ?_⟩⟩
    · rw [same front, slashed_append inner]
      split <;> rfl
    · have grown := count_slashed (above path)
      rw [if_pos ended]
      omega
    · rw [if_pos ended]
      exact slashed_ends inner
  · simp only [if_neg up] at stays ⊢
    by_cases here : plainDots segment = ['.']
    · simp only [if_pos here] at stays ⊢
      have grown := count_slashed path
      exact ⟨slashed_append filled, fun _ => ⟨depth, stays, id, by omega, slashed_ends filled⟩⟩
    · simp only [if_neg here] at stays ⊢
      refine ⟨fun front => by simp, fun ended => ⟨depth + 1, stays, fun enters => ?_, ?_, ?_⟩⟩
      · rw [Bool.and_eq_true] at enters
        exact enters.2
      · rw [if_pos ended, List.count_append, List.count_append, List.count_singleton_self]
        omega
      · rw [if_pos ended, List.getLast?_concat]

/-- A segment that leads to no directory above the one that is `depth` directories up leaves the
slash at the beginning of the path. -/
theorem enter_head {path segment : List Char} {others : List (List Char)} {depth : Nat}
    (deep : depth + 1 ≤ path.count '/') (stays : staysWithin depth (segment :: others) = true)
    (rooted : path.head? = some '/') (slash : Bool) :
    (enter path segment slash).head? = some '/' := by
  -- What is put at the end of a path changes nothing at its beginning.
  have extended : ∀ front back : List Char, front.head? = some '/' → (front ++ back).head? = some '/' := by
    intro front back first
    rw [List.head?_append, first, Option.some_or]
  have ended : ∀ front : List Char, front.head? = some '/' → (slashed front).head? = some '/' := by
    intro front first
    unfold slashed
    split
    · exact first
    · exact extended front _ first
  rw [staysWithin] at stays
  unfold enter
  split
  · rename_i up
    rw [if_pos up, Bool.and_eq_true, decide_eq_true_eq] at stays
    have less := (above_append (show 2 ≤ path.count '/' by omega)).1
    -- What is left of the path is not empty, so it begins like the path.
    have first : (above path).head? = some '/' := by
      obtain ⟨rest, split⟩ := above_prefix path
      cases left : above path with
      | nil =>
        rw [left, List.count_nil] at less
        omega
      | cons c more =>
        rw [← split, left] at rooted
        exact rooted
    split
    · exact ended _ first
    · exact first
  · split
    · exact ended _ rooted
    · rw [List.append_assoc]
      exact extended path _ rooted

/-- Segments that lead to no directory above leave the slash at the beginning of the path. -/
theorem descend_head {parts : List (List Char)} {path : List Char} {depth : Nat}
    (deep : depth + 1 ≤ path.count '/') (stays : staysWithin depth parts = true)
    (rooted : path.head? = some '/') : (descend path parts).head? = some '/' := by
  -- By induction on the segments, with the number of directories that may be left.
  induction parts generalizing path depth with
  | nil => exact rooted
  | cons segment others ih =>
    cases others with
    | nil => exact enter_head deep stays rooted false
    | cons next rest =>
      obtain ⟨after, later, _, deeper, _⟩ := (enter_append deep stays true).2 rfl
      exact ih deeper later (enter_head deep stays rooted true)

/-- No drive letter stands for the host of a URL: a directory is in front of the path, or no segment
that begins with a drive letter is entered from the root. -/
def Hostless (front path : List Char) (depth : Nat) (parts : List (List Char)) : Prop :=
  front ≠ [] ∨ (depth = 0 → path.getLast? = some '/') ∧ entersNoDrive depth parts = true

/-- A drive letter begins with itself. -/
theorem beginsWithDrive_of_isDriveLetter {segment : List Char} (drive : isDriveLetter segment = true) :
    beginsWithDrive segment = true := by
  unfold isDriveLetter at drive
  split at drive
  · exact drive
  · cases drive

/-- A segment that does not begin with a drive letter has no beginning that is one. -/
theorem isNormalDriveLetter_of_prefix {segment front : List Char}
    (plain : beginsWithDrive segment = false) (begins : front <+: segment) :
    isNormalDriveLetter front = false := by
  rw [isNormalDriveLetter, Bool.and_eq_false_iff]
  left
  by_contra drive
  rw [Bool.not_eq_false] at drive
  -- A drive letter has two characters, which would be the first two of the segment.
  have two : front.length = 2 := by
    unfold isDriveLetter at drive
    split at drive
    · rfl
    · cases drive
  obtain ⟨rest, rfl⟩ := begins
  have same : (front ++ rest).take 2 = front := by rw [← two, List.take_left]
  rw [beginsWithDrive, same, drive] at plain
  cases plain

/-- Dots do not begin with a drive letter. -/
theorem beginsWithDrive_of_dots {segment : List Char} (dots : (plainDots segment).head? = some '.') :
    beginsWithDrive segment = false := by
  -- A drive letter begins with a letter, and dots begin with none.
  have other : ∀ c rest, c.isAlpha = false → beginsWithDrive (c :: rest) = false := by
    intro c rest mark
    unfold beginsWithDrive isDriveLetter
    split
    · rename_i letter colon shape
      obtain ⟨rfl, _⟩ := List.cons.inj shape
      rw [mark, Bool.false_and]
    · rfl
  unfold plainDots at dots
  split at dots
  · exact other _ _ (by decide)
  · exact other _ _ (by decide)
  · rename_i undecoded
    -- A segment that is left as it is begins with a dot only if it was decoded.
    cases segment with
    | nil => rfl
    | cons c rest =>
      rw [List.head?_cons, Option.some.injEq] at dots
      subst dots
      exact other _ _ (by decide)

/-- From the root, no segment is entered that begins with a drive letter. -/
theorem beginsWithDrive_of_enters {segment : List Char} {others : List (List Char)}
    (enters : entersNoDrive 0 (segment :: others) = true) : beginsWithDrive segment = false := by
  -- Dots begin with no drive letter, and any other segment was tested when it was entered.
  rw [entersNoDrive] at enters
  split at enters
  · rename_i up
    exact beginsWithDrive_of_dots (by rw [up]; rfl)
  · split at enters
    · rename_i here
      exact beginsWithDrive_of_dots (by rw [here]; rfl)
    · rw [Bool.and_eq_true] at enters
      simpa using enters.1

/-- Behind a directory, or where no drive is entered, the first of the segments is calm, and it is no
drive letter in the place of a host. -/
theorem Hostless.first {front path segment : List Char} {others : List (List Char)} {depth : Nat}
    (hostless : Hostless front path depth (segment :: others)) (deep : depth + 1 ≤ path.count '/') :
    Calm (front ++ path) segment ∧
      ((front ++ path).length = 1 → isDriveLetter segment = false) := by
  have rooted : '/' ∈ path := List.count_pos_iff.mp (by omega)
  -- With a slash behind its first character, no beginning of the path is a drive letter.
  have behind : '/' ∈ (front ++ path).tail → Calm (front ++ path) segment ∧
      ((front ++ path).length = 1 → isDriveLetter segment = false) := by
    intro member
    refine ⟨calm_of_mem member segment, fun one => ?_⟩
    have some_char := List.length_pos_of_mem member
    rw [List.length_tail] at some_char
    omega
  cases front with
  | cons first rest => exact behind (List.mem_append_right rest rooted)
  | nil =>
    obtain ⟨ends, enters⟩ : (depth = 0 → path.getLast? = some '/') ∧
        entersNoDrive depth (segment :: others) = true :=
      hostless.resolve_left fun some_front => some_front rfl
    rw [List.nil_append] at behind ⊢
    obtain ⟨first, rest, rfl⟩ := List.exists_cons_of_ne_nil (List.ne_nil_of_mem rooted)
    by_cases member : '/' ∈ rest
    · exact behind member
    · -- The path is the slash at the root, and only the segment is behind it.
      have none := List.count_eq_zero.mpr member
      rw [List.count_cons] at deep
      have top : depth = 0 := by
        split at deep <;> omega
      subst top
      have last := ends rfl
      have alone : rest = [] := by
        rcases List.eq_nil_or_concat rest with rfl | ⟨start, final, rfl⟩
        · rfl
        · rw [List.concat_eq_append, ← List.cons_append, List.getLast?_concat, Option.some.injEq] at last
          subst last
          exact absurd (by simp) member
      subst alone
      have plain := beginsWithDrive_of_enters enters
      refine ⟨fun front begins => isNormalDriveLetter_of_prefix plain begins, fun _ => ?_⟩
      rw [← Bool.not_eq_true]
      intro drive
      rw [beginsWithDrive_of_isDriveLetter drive] at plain
      cases plain

/-- The segments of a reference are read onto a path below a directory as they would be without the
directory in front. -/
theorem readSegments_eq (gaps : List Nat) {front : List Char} {bound : Nat} (drive : Bool)
    {path input : List Char} {depth : Nat} (bounded : input.length < bound)
    (deep : depth + 1 ≤ path.count '/') (stays : staysWithin depth (segments input) = true)
    (hostless : Hostless front path depth (segments input)) :
    (readSegments .file gaps true bound drive (front ++ path) input).1 =
      front ++ descend path (segments input) := by
  -- Each segment that ends with a slash leaves less of the input for those behind it.
  induction bound generalizing drive path input depth with
  | zero => omega
  | succ bound ih =>
    obtain ⟨segment, others, cut⟩ := exists_segments input
    rw [cut] at stays hostless ⊢
    have rooted : '/' ∈ path := List.count_pos_iff.mp (by omega)
    obtain ⟨calm, inner⟩ := hostless.first deep
    have filled : front ++ path ≠ [] := List.ne_nil_of_mem (List.mem_append_right _ rooted)
    -- The first segment is read as it is written, and closed as it would be without the front.
    obtain ⟨slash, rest, read, shape, shorter⟩ :=
      readSegment_eq gaps true (front ++ path).length filled cut calm
    have closed := @closeSegment_eq _ _ rest slash inner
    obtain ⟨same, room⟩ := enter_append deep stays slash
    rw [same front] at closed
    rw [readSegments, read]
    simp only [closed]
    cases slash with
    | false =>
      rw [if_neg Bool.false_ne_true] at shape
      rw [shape, descend, if_neg Bool.false_ne_true]
    | true =>
      rw [if_pos rfl] at shape
      obtain ⟨next, later, enters, deeper, ends⟩ := room rfl
      have fewer := shorter rfl
      rw [shape] at later hostless enters
      -- Without a directory in front, the path still ends with a slash.
      have still : Hostless front (enter path segment true) next (segments rest) :=
        hostless.imp_right fun plain => ⟨fun _ => ends, enters plain.2⟩
      rw [if_pos rfl, ih _ (by omega) deeper later still]
      obtain ⟨second, more, known⟩ := exists_segments rest
      rw [shape, known, descend]

end SpecTrace.Url
