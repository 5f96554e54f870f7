import SpecTrace.Discovery.Discovery
import SpecTrace.Proofs.Discovery.Matching
import SpecTrace.Proofs.Text.Utf8

/-! Patterns that match everything in a directory as soon as they match the name there that no file
has. -/

namespace SpecTrace

/-- Behind a directory comes a slash, and behind it the rest of the path. -/
theorem relativeText_append {directory rest : FilePath} (above : directory ≠ []) (below : rest ≠ []) :
    relativeText (directory ++ rest) = relativeText directory ++ "/" ++ relativeText rest := by
  apply String.toList_injective
  -- The names are joined by slashes, so the last name of the directory is the one that matters.
  induction directory with
  | nil => exact absurd rfl above
  | cons name directory ih =>
    cases directory with
    | nil =>
      obtain ⟨next, rest, rfl⟩ := List.exists_cons_of_ne_nil below
      simp [relativeText, String.toList_intercalate]
    | cons next directory =>
      have further := ih (by simp)
      simp only [relativeText, String.toList_intercalate, String.toList_append, List.cons_append,
        List.map_cons, List.intercalate_cons_cons, List.append_assoc] at further ⊢
      rw [further]

/-- The bytes of what comes behind a directory stand behind its own and a slash. -/
theorem encode_relativeText_append {directory rest : FilePath} (above : directory ≠ [])
    (below : rest ≠ []) :
    Utf8.encode (relativeText (directory ++ rest)).toList =
      Utf8.encode (relativeText directory).toList ++
        slash :: Utf8.encode (relativeText rest).toList := by
  -- The texts are joined by a slash, and encoding goes character by character.
  have oneSlash : Utf8.encode ['/'] = [slash] := by decide
  rw [relativeText_append above below]
  simp only [Utf8.encode, String.toList_append, List.flatMap_append] at oneSlash ⊢
  rw [show "/".toList = ['/'] from rfl, oneSlash, List.append_assoc, List.singleton_append]

/-- The byte of the name that no file has. -/
def nul : UInt8 := 0

/-- A text that ends with a byte of value zero is no other one. -/
theorem eq_nul_of_encode {c : Char} {front : List UInt8} (ends : Utf8.encode [c] = front ++ [nul]) :
    c = '\x00' := by
  have bytes : String.utf8EncodeChar c = front ++ [nul] := by
    rw [← ends]
    simp [Utf8.encode]
  have member : nul ∈ String.utf8EncodeChar c := by simp [bytes]
  -- Only the character of value zero has this byte.
  have zero := (Utf8.eq_of_mem_utf8EncodeChar member (by decide)).2
  exact Char.toNat_inj.mp zero

/-- An end of a path that ends with a slash and the name that no file has begins in front of that
slash, or the slash is not in it. -/
theorem ends_below {above tail : List UInt8} (ends : tail <:+ above ++ [slash, nul]) :
    (∃ inner, tail = inner ++ [slash, nul]) ∨ tail = [nul] ∨ tail = [] := by
  obtain ⟨front, whole⟩ := ends
  -- The end is read backwards: the name first and then the slash.
  rcases List.eq_nil_or_concat tail with rfl | ⟨shorter, last, rfl⟩
  · exact .inr (.inr rfl)
  · have parts : (front ++ shorter) ++ [last] = (above ++ [slash]) ++ [nul] := by simpa using whole
    obtain ⟨before, same⟩ := List.append_inj' parts rfl
    cases same
    rcases List.eq_nil_or_concat shorter with rfl | ⟨shortest, last, rfl⟩
    · exact .inr (.inl rfl)
    · have parts : (front ++ shortest) ++ [last] = above ++ [slash] := by simpa using before
      obtain ⟨_, same⟩ := List.append_inj' parts rfl
      cases same
      exact .inl ⟨shortest, by simp⟩

/-- Bytes are a name, or directories and a name behind them. -/
theorem exists_name (bytes : List UInt8) :
    slash ∉ bytes ∨ ∃ directories name, bytes = directories ++ slash :: name ∧ slash ∉ name := by
  -- The last slash is found from behind.
  induction bytes with
  | nil => exact .inl List.not_mem_nil
  | cons b bytes ih =>
    rcases ih with plain | ⟨directories, name, rfl, plain⟩
    · by_cases isSlash : b = slash
      · exact .inr ⟨[], bytes, by rw [isSlash, List.nil_append], plain⟩
      · refine .inl fun member => ?_
        rcases List.mem_cons.mp member with same | inside
        · exact isSlash same.symm
        · exact plain inside
    · exact .inr ⟨b :: directories, name, rfl, plain⟩

namespace GlobPart

/-- A part in front of others takes the directories behind a slash, and they take a name. -/
def takesNames : GlobPart → List GlobPart → Bool
  | .innerDirs, [.anyName] => true
  | _, _ => false

mutual

/-- Parts that take every name in a directory, at any depth, if they take the name that no file
has: they end with stars for directories, or cannot take that name at all. -/
def covers : List GlobPart → Bool
  | [] => false
  | part :: rest =>
    if rest.isEmpty then coversAlone part else takesNames part rest || covers rest

/-- A part at the end that takes everything behind a slash, or does not take the name that no file
has. -/
def coversAlone : GlobPart → Bool
  | .literal c => c ≠ '\x00'
  | .byteClass negated ranges => inByteRanges ranges nul == negated
  | .trailingDirs => true
  | .alternatives [] => false
  | .alternatives (choice :: others) => covers choice && coversEach others
  | _ => false

/-- Each of several patterns covers what is in a directory. -/
def coversEach : List (List GlobPart) → Bool
  | [] => true
  | choice :: others => covers choice && coversEach others

end

/-- Where bytes fit that end with the name that no file has, the last slash is among them, and
whatever comes behind that slash fits as well. -/
def Covering (fits : List UInt8 → Prop) : Prop :=
  ∀ above tail, tail <:+ above ++ [slash, nul] → fits tail →
    ∃ inner, tail = inner ++ [slash, nul] ∧ ∀ rest, fits (inner ++ slash :: rest)

/-- Where all that counts is a slash in front, whatever comes behind a slash is covered. -/
theorem covering_of_slash {fits : List UInt8 → Prop}
    (inFront : ∀ bytes, fits bytes ↔ ∃ rest, bytes = slash :: rest) : Covering fits := by
  intro above tail ends fit
  obtain ⟨behind, rfl⟩ := (inFront tail).mp fit
  rcases ends_below ends with ⟨inner, split⟩ | single | none
  · refine ⟨inner, split, fun rest => (inFront _).mpr ?_⟩
    -- The slash in front stays where it is.
    cases inner with
    | nil => exact ⟨rest, rfl⟩
    | cons first inner =>
      obtain ⟨rfl, _⟩ := List.cons.inj split
      exact ⟨_, rfl⟩
  · cases single
  · cases none

/-- Stars for everything behind a slash cover it. -/
theorem covering_trailingDirs : Covering (Matches .trailingDirs) := by
  refine covering_of_slash fun bytes => ⟨fun fit => ?_, ?_⟩
  · cases fit with
    | trailingDirs behind => exact ⟨behind, rfl⟩
  · rintro ⟨rest, rfl⟩
    exact .trailingDirs rest

/-- Stars for directories cover what is in a directory with a star for the name behind them. -/
theorem covering_names : Covering (AllMatch [.innerDirs, .anyName]) := by
  refine covering_of_slash fun bytes => ⟨fun whole => ?_, ?_⟩
  · cases whole with
    | cons first rest =>
      cases first with
      | oneSlash => exact ⟨_, rfl⟩
      | innerDirs directories => exact ⟨_, rfl⟩
  · rintro ⟨rest, rfl⟩
    -- The stars take the directories behind the slash, if there are any.
    rcases exists_name rest with plain | ⟨directories, name, rfl, plain⟩
    · have whole := AllMatch.cons .oneSlash (.cons (.anyName plain) .nil)
      simpa using whole
    · have whole := AllMatch.cons (.innerDirs directories) (.cons (.anyName plain) .nil)
      simpa using whole

/-- A part that takes at least one byte, but not the byte of value zero as its last one, takes no
end of such a path. -/
theorem covering_of_visible {fits : List UInt8 → Prop}
    (visible : ∀ tail, fits tail → tail ≠ [] ∧ ∀ front, tail ≠ front ++ [nul]) : Covering fits := by
  intro above tail ends fit
  obtain ⟨filled, other⟩ := visible tail fit
  -- Whatever the end is, its last byte has value zero, or it is empty.
  rcases ends_below ends with ⟨inner, split⟩ | single | none
  · refine absurd ?_ (other (inner ++ [slash]))
    rw [split, List.append_assoc, List.singleton_append]
  · exact absurd single (other [])
  · exact absurd none filled

/-- Parts in front change nothing about what is covered. -/
theorem Covering.cons {part : GlobPart} {parts : List GlobPart} (covering : Covering (AllMatch parts)) :
    Covering (AllMatch (part :: parts)) := by
  intro above tail ends fit
  -- What the first part takes stands in front of the slash.
  cases fit with
  | @cons _ _ front back first whole =>
    have shorter : back <:+ above ++ [slash, nul] := (List.suffix_append front back).trans ends
    obtain ⟨inner, rfl, every⟩ := covering above back shorter whole
    refine ⟨front ++ inner, (List.append_assoc _ _ _).symm, fun rest => ?_⟩
    rw [List.append_assoc]
    exact .cons first (every rest)

/-- One part alone takes what it matches. -/
theorem allMatch_singleton {part : GlobPart} {bytes : List UInt8} :
    AllMatch [part] bytes ↔ part.Matches bytes := by
  -- Behind the one part only the empty rest matches.
  constructor
  · intro whole
    cases whole with
    | cons first rest =>
      cases rest
      rwa [List.append_nil]
  · intro first
    have whole := AllMatch.cons first .nil
    rwa [List.append_nil] at whole

/-- A pattern of one part covers what the part covers. -/
theorem Covering.alone {part : GlobPart} (covering : Covering part.Matches) :
    Covering (AllMatch [part]) := by
  intro above tail ends fit
  obtain ⟨inner, split, every⟩ := covering above tail ends (allMatch_singleton.mp fit)
  exact ⟨inner, split, fun rest => allMatch_singleton.mpr (every rest)⟩

/-- Alternatives cover what each of them covers. -/
theorem covering_alternatives {choices : List (List GlobPart)} (some_choice : choices ≠ [])
    (each : ∀ choice ∈ choices, Covering (AllMatch choice)) :
    Covering (Matches (.alternatives choices)) := by
  -- The alternative that fits is one that covers, and whatever it takes the alternatives take.
  intro above tail ends fit
  cases fit with
  | noAlternative => exact absurd rfl some_choice
  | alternative member whole =>
    obtain ⟨inner, split, every⟩ := each _ member above tail ends whole
    exact ⟨inner, split, fun rest => .alternative member (every rest)⟩

/-- Only stars for directories with a star for the name behind them are found to take names. -/
theorem eq_of_takesNames {first second : GlobPart} {rest : List GlobPart}
    (found : takesNames first (second :: rest) = true) :
    first = .innerDirs ∧ second = .anyName ∧ rest = [] := by
  -- One shape is recognised, and any other answers no.
  unfold takesNames at found
  split at found
  · rename_i shape
    cases shape
    exact ⟨rfl, rfl, rfl⟩
  · cases found

mutual

/-- Parts that are found to cover do so. -/
theorem covering_of_covers : ∀ parts : List GlobPart, covers parts = true → Covering (AllMatch parts)
  | [], found => by simp [covers] at found
  | [part], found => (covering_of_coversAlone part (by simpa [covers] using found)).alone
  | first :: second :: rest, found => by
    rw [covers, List.isEmpty_cons, if_neg Bool.false_ne_true, Bool.or_eq_true] at found
    -- The pattern ends with the two parts for names, or the parts behind the first one cover.
    rcases found with names | later
    · obtain ⟨rfl, rfl, rfl⟩ := eq_of_takesNames names
      exact covering_names
    · exact (covering_of_covers (second :: rest) later).cons

/-- A part that is found to cover does so. -/
theorem covering_of_coversAlone : ∀ part : GlobPart, coversAlone part = true → Covering part.Matches
  -- What stands at the end covers because it cannot end in the NUL, because it takes everything, or
  -- because each of its alternatives covers.
  | .literal c, found => by
    refine covering_of_visible ?_
    rintro _ ⟨⟩
    refine ⟨?_, fun front ends => ?_⟩
    · simp [Utf8.encode, String.utf8EncodeChar_ne_nil]
    · simp [coversAlone, eq_nul_of_encode ends] at found
  | .byteClass negated ranges, found => by
    refine covering_of_visible ?_
    intro tail fit
    cases fit with
    | byteClass inside =>
      refine ⟨by simp, fun front ends => ?_⟩
      obtain ⟨_, same⟩ := List.append_inj' (show [] ++ [_] = front ++ [nul] from ends) rfl
      cases same
      exact inside (by simpa [coversAlone] using found)
  | .trailingDirs, _ => covering_trailingDirs
  | .alternatives [], found => by simp [coversAlone] at found
  | .alternatives (choice :: others), found => by
    rw [coversAlone, Bool.and_eq_true] at found
    refine covering_alternatives (by simp) (List.forall_mem_cons.mpr ⟨?_, ?_⟩)
    · exact covering_of_covers choice found.1
    · exact covering_of_coversEach others found.2
  | .anyByte, found => by simp [coversAlone] at found
  | .anyName, found => by simp [coversAlone] at found
  | .leadingDirs, found => by simp [coversAlone] at found
  | .innerDirs, found => by simp [coversAlone] at found

/-- Patterns that are all found to cover do so. -/
theorem covering_of_coversEach : ∀ choices : List (List GlobPart), coversEach choices = true →
    ∀ choice ∈ choices, Covering (AllMatch choice)
  | [], _ => by simp
  | choice :: others, found => by
    rw [coversEach, Bool.and_eq_true] at found
    exact List.forall_mem_cons.mpr ⟨covering_of_covers choice found.1, covering_of_coversEach others found.2⟩

end

end GlobPart

namespace Glob

/-- The pattern matches everything in a directory, or nothing there needs to be asked about. -/
def covers (glob : Glob) : Bool :=
  match glob.parts with
  | [.leadingDirs] => true
  | [.leadingDirs, .anyName] => true
  | parts => GlobPart.covers parts

/-- Stars for directories and one for the name match any path. -/
theorem allMatch_names (bytes : List UInt8) : GlobPart.AllMatch [.leadingDirs, .anyName] bytes := by
  rcases exists_name bytes with plain | ⟨directories, name, rfl, plain⟩
  · have whole := GlobPart.AllMatch.cons .noDirectory (.cons (.anyName plain) .nil)
    simpa using whole
  · have whole := GlobPart.AllMatch.cons (.leadingDirs directories) (.cons (.anyName plain) .nil)
    simpa using whole

/-- A pattern that covers matches everything in a directory if it matches the name there that no
file has. -/
theorem isMatch_of_covers {glob : Glob} (found : glob.covers = true) {directory rest : FilePath}
    (above : directory ≠ []) (below : rest ≠ [])
    (child : glob.isMatch (relativeText (directory ++ [Selection.anyChild])) = true) :
    glob.isMatch (relativeText (directory ++ rest)) = true := by
  -- Parts that cover take everything, or take names behind directories, or cover by themselves.
  rw [isMatch_iff] at child ⊢
  unfold covers at found
  split at found
  · rename_i anything
    exact .inl anything
  · rename_i names
    rw [names]
    exact .inr (allMatch_names _)
  · rename_i notAnything _
    rcases child with anything | whole
    · exact absurd anything notAnything
    · right
      have name : Utf8.encode (relativeText [Selection.anyChild]).toList = [nul] := by decide
      rw [encode_relativeText_append above (by simp), name] at whole
      -- The path of the directory is what stands in front of the last slash.
      obtain ⟨inner, split, every⟩ :=
        GlobPart.covering_of_covers _ found _ _ List.suffix_rfl whole
      rw [encode_relativeText_append above below]
      have same : Utf8.encode (relativeText directory).toList = inner :=
        (List.append_inj' split rfl).1
      rw [same]
      exact every _

end Glob

end SpecTrace
